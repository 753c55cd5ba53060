import Einsatzcockpit.Zugang.Erhalt

namespace Einsatzcockpit.Zugang

open Raising Relational Transition

variable {schluessel : Schluessel} {db : Db} {ausgaben : List Ausgabe} {w : Welt}

section Pruefung

variable {now : Zeit} {cookieWert : String} {typ : Typ}

theorem gebundenPruefen_gut (gut : db.Gut schluessel ausgaben) (zugang : LageEinheitZugang)
    (session : LageEinheitZugangSession) (einheit : LageEinheit) (lage : MajorIncident) (leader : Option LageEinheitLeader)
    (orgId : Nat) :
    (gebundenPruefen db now typ zugang session einheit lage leader orgId).2.Gut schluessel ausgaben ∧
      Folgt db.zugaenge (gebundenPruefen db now typ zugang session einheit lage leader orgId).2.zugaenge := by
  unfold gebundenPruefen
  split
  · exact ⟨gut.setzeSitzung session.id _ _ fun _ => rfl, Folgt.refl _⟩
  split
  · exact ⟨gut, Folgt.refl _⟩
  split
  · exact ⟨gut, Folgt.refl _⟩
  split
  · exact ⟨gut, Folgt.refl _⟩
  simp only
  split
  · have gesehen := gut.setzeSitzung session.id (fun s => { s with lastSeenAt := some now }) (fun _ => rfl) fun _ => rfl
    have folgt : Folgt db.zugaenge (db.zugaenge.modify zugang.id (fun z => { z with letzteAktivitaetAt := some now }) fun _ => rfl) :=
      Folgt.modify _ fun z _ => Stand.Spaeter.refl z.stand
    refine ⟨gesehen.folge folgt (fun z member => ?_) fun s member => ⟨s, member, rfl⟩, folgt⟩
    obtain ⟨old, isRow, rfl⟩ := List.mem_map.mp member
    split
    · exact gut.zugaenge old isRow
    · exact gut.zugaenge old isRow
  · exact ⟨gut, Folgt.refl _⟩

theorem sitzungPruefenMitGrund_gut (gut : db.Gut schluessel ausgaben) :
    (sitzungPruefenMitGrund schluessel db now cookieWert typ).2.Gut schluessel ausgaben ∧
      Folgt db.zugaenge (sitzungPruefenMitGrund schluessel db now cookieWert typ).2.zugaenge := by
  have unveraendert : db.Gut schluessel ausgaben ∧ Folgt db.zugaenge db.zugaenge := ⟨gut, Folgt.refl _⟩
  unfold sitzungPruefenMitGrund
  split
  · exact unveraendert
  next session _ =>
  have ungueltig : (db.setzeSitzung session.id (·.revoke "ungueltig" now) fun _ => rfl).Gut schluessel ausgaben ∧
      Folgt db.zugaenge (db.setzeSitzung session.id (·.revoke "ungueltig" now) fun _ => rfl).zugaenge :=
    ⟨gut.setzeSitzung session.id _ _ fun _ => rfl, Folgt.refl _⟩
  simp only
  split
  · exact unveraendert
  split
  · exact unveraendert
  split
  · exact unveraendert
  split
  · exact ungueltig
  split
  · exact ungueltig
  split
  · split
    · exact ungueltig
    · exact gebundenPruefen_gut gut _ _ _ _ _ _
  · exact ungueltig

theorem sitzungPruefenMitGrund_ok {p : ZugangPrincipal} {db' : Db}
    (ok : sitzungPruefenMitGrund schluessel db now cookieWert typ = (.ok p, db')) :
    p.session ∈ db.sitzungen.rows ∧ ∃ zugang einheit lage orgId, db.zugaenge.get? p.session.zugangId = some zugang ∧
      db.umgebung.einheit zugang.einheitId = some einheit ∧
      invalidBinding db zugang p.session einheit lage (zugang.leaderId.bind db.umgebung.leader) orgId typ = false := by
  unfold sitzungPruefenMitGrund at ok
  split at ok
  · cases ok
  next session found =>
  simp only at ok
  split at ok
  · cases ok
  split at ok
  · cases ok
  split at ok
  · cases ok
  next zugang isRow =>
  split at ok
  · cases ok
  next orgId _ =>
  split at ok
  · cases ok
  split at ok
  · next einheit lage isUnit _ =>
    split at ok
    · cases ok
    unfold gebundenPruefen at ok
    split at ok
    · cases ok
    next bound =>
    split at ok
    · cases ok
    split at ok
    · cases ok
    split at ok
    · cases ok
    cases ok
    exact ⟨List.mem_of_find?_eq_some found, zugang, einheit, lage, orgId, isRow, isUnit, Bool.eq_false_of_not_eq_true bound⟩
  · cases ok

end Pruefung

section Sicher

theorem tokenPruefen_ne_ok (kollisionsfrei : schluessel.Kollisionsfrei) (gut : db.Gut schluessel ausgaben) {a : Ausgabe}
    (member : a ∈ ausgaben) {zugang : LageEinheitZugang} (found : db.zugaenge.get? a.zugangId = some zugang)
    (alt : a.drehung < zugang.drehung) (now : Zeit) (typ : Typ) : (tokenPruefen schluessel db now a.token typ).1 ≠ .ok := by
  intro ok
  unfold tokenPruefen at ok
  split at ok
  · cases ok
  split at ok
  · split at ok <;> cases ok
  next other isOther =>
  obtain ⟨z, isRow, token, -⟩ := gut.ausgaben a member
  rw [found, Option.some.injEq] at isRow
  subst isRow
  have hash : other.tokenHash = some (schluessel.ableitung zugang.typ zugang.id a.drehung) := by
    have matched := List.find?_some isOther
    rw [decide_eq_true_eq, token] at matched
    exact matched.1
  have ordentlich := gut.zugaenge other (List.mem_of_find?_eq_some isOther)
  obtain ⟨id, generation⟩ := kollisionsfrei _ _ _ _ _ _ (ordentlich.token _ hash)
  have same : other = zugang := by
    have read := Keyed.get?_of_mem (List.mem_of_find?_eq_some isOther)
    rw [show other.id = zugang.id from id.symm, Keyed.get?_self found, Option.some.injEq] at read
    exact read.symm
  have current : zugang.generation = zugang.drehung := same ▸ ordentlich.generation
  have isCurrent : a.drehung = zugang.generation := same ▸ generation
  omega

theorem drehung_of_gebunden {session : LageEinheitZugangSession} {zugang : LageEinheitZugang} {einheit : LageEinheit}
    {lage : MajorIncident} {leader : Option LageEinheitLeader} {orgId : Nat} {typ : Typ} (gut : db.Gut schluessel ausgaben)
    (member : session ∈ db.sitzungen.rows) (found : db.zugaenge.get? session.zugangId = some zugang)
    (bound : invalidBinding db zugang session einheit lage leader orgId typ = false) :
    session.drehung = zugang.drehung ∧ session.bindung = zugang.bindung := by
  obtain ⟨z, isRow, gebunden⟩ := gut.sitzungen session member
  rw [found, Option.some.injEq] at isRow
  subst isRow
  have generation : session.generation = zugang.generation := by
    simp only [invalidBinding, decide_eq_false_iff_not, not_or, not_not] at bound
    exact bound.2.2.1
  have ordentlich := gut.zugaenge zugang (Keyed.mem_of_get? found)
  have same : session.drehung = zugang.drehung := by
    rw [← gebunden.generation, generation]
    exact ordentlich.generation
  exact ⟨same, gebunden.bindung same⟩

theorem leaderPasst_of_gebunden {session : LageEinheitZugangSession} {zugang : LageEinheitZugang} {einheit : LageEinheit}
    {lage : MajorIncident} {leader : Option LageEinheitLeader} {orgId : Nat}
    (bound : invalidBinding db zugang session einheit lage leader orgId .personal = false) :
    leaderPasst zugang einheit leader = true := by
  simp only [invalidBinding, decide_eq_false_iff_not, not_or, not_and] at bound
  exact Bool.eq_true_of_not_eq_false (bound.2.2.2.2.2.1 trivial)

theorem Sicher.of_gut (kollisionsfrei : schluessel.Kollisionsfrei) (gut : w.db.Gut schluessel w.ausgaben) :
    Sicher schluessel w := by
  refine ⟨fun a member zugang found alt now typ => tokenPruefen_ne_ok kollisionsfrei gut member found alt now typ,
    fun now cookieWert typ p db' ok => ?_, fun now cookieWert p db' ok => ?_⟩
  · obtain ⟨member, zugang, einheit, lage, orgId, found, -, bound⟩ := sitzungPruefenMitGrund_ok ok
    obtain ⟨same, -⟩ := drehung_of_gebunden gut member found bound
    exact ⟨zugang, found, by omega⟩
  · obtain ⟨member, zugang, einheit, lage, orgId, found, isUnit, bound⟩ := sitzungPruefenMitGrund_ok ok
    obtain ⟨-, bindung⟩ := drehung_of_gebunden gut member found bound
    have passt := leaderPasst_of_gebunden bound
    rw [leaderPasst, decide_eq_true_eq, Option.any_eq_true] at passt
    obtain ⟨assigned, leader, isLeader, matched⟩ := passt
    rw [decide_eq_true_eq] at matched
    obtain ⟨offen, phoneE164, phoneVersion⟩ := matched
    obtain ⟨leaderId, isId, isLeader⟩ := Option.bind_eq_some_iff.mp isLeader
    refine ⟨zugang, leaderId, leader, found, ?_, isLeader, offen, ?_⟩
    · rw [isUnit, Option.bind_some, assigned, isId]
    · rw [bindung, LageEinheitZugang.bindung, isId, phoneE164, phoneVersion]

end Sicher

structure Welt.Gut (schluessel : Schluessel) (w : Welt) : Prop where
  db : w.db.Gut schluessel w.ausgaben
  vorgaenge : ∀ nummer ansicht, w.vorgaenge nummer = some ansicht → ansicht.Alt schluessel w.db

theorem Welt.Gut.leer (umgebung : Umgebung) : (Welt.leer umgebung).Gut schluessel :=
  ⟨Db.Gut.leer umgebung, fun _ _ none => by cases none⟩

section

variable (gut : w.Gut schluessel)
include gut

theorem Welt.Gut.step {e : Ereignis} (frisch : w.Frisch schluessel e) :
    (w.step schluessel e).Gut schluessel ∧ Folgt w.db.zugaenge (w.step schluessel e).db.zugaenge := by
  cases e with
  | beginn nummer =>
    refine ⟨⟨gut.db, fun other ansicht read => ?_⟩, Folgt.refl _⟩
    have read : Function.update w.vorgaenge nummer (some w.db) other = some ansicht := read
    by_cases same : other = nummer
    · rw [same, Function.update_self, Option.some.injEq] at read
      exact read ▸ gut.db.alt
    · rw [Function.update_of_ne same] at read
      exact gut.vorgaenge other ansicht read
  | ende nummer schritte =>
    have andere : ∀ db' : Db, Folgt w.db.zugaenge db'.zugaenge → ∀ other ansicht,
        Function.update w.vorgaenge nummer none other = some ansicht → ansicht.Alt schluessel db' := by
      intro db' folgt other ansicht read
      by_cases same : other = nummer
      · rw [same, Function.update_self] at read
        cases read
      · rw [Function.update_of_ne same] at read
        exact (gut.vorgaenge other ansicht read).folge folgt
    simp only [Welt.step]
    split
    · exact ⟨gut, Folgt.refl _⟩
    next ansicht offen =>
    have beginn : (w.vorgang ansicht).Gut schluessel :=
      ⟨gut.db, gut.vorgaenge nummer ansicht offen, fun _ none => absurd none List.not_mem_nil⟩
    split
    · next v ok =>
      have weiter := beginn.schritte (frisch ansicht offen) ok
      exact ⟨⟨weiter.gut.db, andere v.db weiter.folgt⟩, weiter.folgt⟩
    · exact ⟨⟨gut.db, andere w.db (Folgt.refl _)⟩, Folgt.refl _⟩
  | pruefung now cookieWert typ =>
    obtain ⟨db, folgt⟩ := sitzungPruefenMitGrund_gut gut.db
    exact ⟨⟨db, fun nummer ansicht read => (gut.vorgaenge nummer ansicht read).folge folgt⟩, folgt⟩
  | umgebung umgebung =>
    have folgt : Folgt w.db.zugaenge w.db.zugaenge := Folgt.refl _
    exact ⟨⟨gut.db.folge folgt gut.db.zugaenge fun s member => ⟨s, member, rfl⟩,
      fun nummer ansicht read => (gut.vorgaenge nummer ansicht read).folge folgt⟩, folgt⟩

theorem Welt.Gut.nachLauf {ereignisse : List Ereignis}
    (frisch : Meets (Welt.step schluessel) (Welt.Frisch schluessel) w ereignisse) :
    (run (Welt.step schluessel) w ereignisse).Gut schluessel :=
  run_induction (Welt.Gut schluessel) (fun _ _ held fresh => (held.step fresh).1) gut frisch

theorem Welt.Gut.folgt {ereignisse : List Ereignis}
    (frisch : Meets (Welt.step schluessel) (Welt.Frisch schluessel) w ereignisse) :
    Folgt w.db.zugaenge (run (Welt.step schluessel) w ereignisse).db.zugaenge :=
  run_relates (Welt.Gut schluessel) (fun w w' => Folgt w.db.zugaenge w'.db.zugaenge)
    (fun _ _ held fresh => (held.step fresh).1) (fun _ => Folgt.refl _) (fun _ _ _ => Folgt.trans)
    (fun _ _ held fresh => (held.step fresh).2) gut frisch

theorem gewachsen_of_folgt {w' : Welt} (gut' : w'.Gut schluessel)
    (folgt : Folgt w.db.zugaenge w'.db.zugaenge) : Gewachsen w w' := by
  intro zugang member
  obtain ⟨zugang', found', spaeter⟩ := folgt _ zugang (Keyed.get?_of_mem member)
  have generation := (gut.db.zugaenge zugang member).generation
  have generation' := (gut'.db.zugaenge zugang' (Keyed.mem_of_get? found')).generation
  refine ⟨zugang', found', spaeter.drehung, fun grown => ?_⟩
  have before : zugang.generation = zugang.drehung := generation
  have after : zugang'.generation = zugang'.drehung := generation'
  omega

end

/-- An access that was rotated or revoked never opens again for what is older, as long as
no transaction rotates or revokes a row that has been rotated or revoked since it loaded it. -/
theorem sicher_nach_frischen_vorgaengen (kollisionsfrei : schluessel.Kollisionsfrei) (umgebung : Umgebung)
    (vorher nachher : List Ereignis)
    (frisch : Meets (Welt.step schluessel) (Welt.Frisch schluessel) (Welt.leer umgebung) (vorher ++ nachher)) :
    Sicher schluessel (run (Welt.step schluessel) (Welt.leer umgebung) (vorher ++ nachher)) ∧
      Gewachsen (run (Welt.step schluessel) (Welt.leer umgebung) vorher)
        (run (Welt.step schluessel) (Welt.leer umgebung) (vorher ++ nachher)) := by
  have ende := (Welt.Gut.leer umgebung).nachLauf frisch
  obtain ⟨frischVorher, frischNachher⟩ := meets_append.mp frisch
  have mitte := (Welt.Gut.leer umgebung).nachLauf frischVorher
  have folgt := mitte.folgt frischNachher
  rw [← run_append] at folgt
  exact ⟨Sicher.of_gut kollisionsfrei ende.db, gewachsen_of_folgt mitte ende folgt⟩

def beispielSchluessel : Schluessel where
  tokenAbleiten := fun typ zugangId generation =>
    String.ofList ((tokenPrefix typ).toList ++ List.replicate zugangId 'i' ++ List.replicate generation 'n')
  qrPinAbleiten := fun _ _ => "000000"
  hashApiKey := id

theorem beispielSchluessel_kollisionsfrei : beispielSchluessel.Kollisionsfrei := by
  intro typ typ' id id' generation generation' same
  have letters := String.ofList_injective same
  have zugang := congrArg (List.count 'i') letters
  have zahl := congrArg (List.count 'n') letters
  cases typ <;> cases typ' <;> simp [tokenPrefix, List.count_replicate] at zugang zahl <;> exact ⟨zugang, zahl⟩

def beispielLeader : LageEinheitLeader := { id := 1, phoneE164 := some "+436641234567" }

def beispielUmgebung : Umgebung where
  einheit := fun id => if id = 1 then some { id := 1, leaderAssignmentId := some 1 } else none
  lage := fun id => if id = 1 then some { id := 1, orgId := 1 } else none
  leader := fun id => if id = 1 then some beispielLeader else none
  orgEinstellungen := fun _ => { gkZugangAktiv := true }

def beispielAussteller : Aussteller where
  cfg := { gkZugangAktiv := true }
  lage := { id := 1, orgId := 1 }
  einheit := { id := 1, leaderAssignmentId := some 1 }
  leader := some beispielLeader
  now := 0

def beispielEinloesung : Einloesung where
  zugangId := 1
  cfg := { gkZugangAktiv := true }
  sessionHash := "cookie"
  verifiziert := true
  now := 0

/-- An access is issued, a session is created, and the access is revoked and issued again. -/
def beispielVorher : List Ereignis :=
  [.beginn 0, .ende 0 [.stelleZugangAus beispielAussteller], .beginn 1, .ende 1 [.lade 1, .sitzungAnlegen beispielEinloesung]]

def beispielNachher : List Ereignis :=
  [.beginn 2, .ende 2 [.lade 1, .widerrufe 1 "manuell" none none 0], .pruefung 0 "cookie" .personal, .beginn 3,
    .ende 3 [.stelleZugangAus beispielAussteller]]

theorem sicher_nach_neuer_ausstellung :
    Sicher beispielSchluessel
        (run (Welt.step beispielSchluessel) (Welt.leer beispielUmgebung) (beispielVorher ++ beispielNachher)) ∧
      Gewachsen (run (Welt.step beispielSchluessel) (Welt.leer beispielUmgebung) beispielVorher)
        (run (Welt.step beispielSchluessel) (Welt.leer beispielUmgebung) (beispielVorher ++ beispielNachher)) :=
  sicher_nach_frischen_vorgaengen beispielSchluessel_kollisionsfrei beispielUmgebung beispielVorher beispielNachher
    (by decide +kernel)

/-- While a transaction has the access loaded, another one rotates it and a session is
created; then the first one rotates it too, to the generation that it has already. -/
def doppelteRotation : List Ereignis :=
  [.beginn 0, .ende 0 [.stelleZugangAus beispielAussteller], .beginn 1, .beginn 2,
    .ende 2 [.stelleZugangAus beispielAussteller], .beginn 3, .ende 3 [.lade 1, .sitzungAnlegen beispielEinloesung],
    .ende 1 [.lade 1, .stelleZugangAus beispielAussteller]]

def veraltetAngenommen (schluessel : Schluessel) (w : Welt) (now : Zeit) (cookieWert : String) (typ : Typ) : Bool :=
  match (sitzungPruefenMitGrund schluessel w.db now cookieWert typ).1 with
  | .ok p => (w.db.zugaenge.get? p.session.zugangId).any (p.session.drehung < ·.drehung)
  | .error _ => false

theorem Sicher.not_veraltetAngenommen (sicher : Sicher schluessel w) (now : Zeit) (cookieWert : String) (typ : Typ) :
    veraltetAngenommen schluessel w now cookieWert typ = false := by
  unfold veraltetAngenommen
  split
  · next p accepted =>
    obtain ⟨zugang, found, current⟩ := sicher.sitzung now cookieWert typ p _ (Prod.ext accepted rfl)
    rw [found, Option.any_some, decide_eq_false current]
  · rfl

theorem doppelte_rotation_unsicher : beispielSchluessel.Kollisionsfrei ∧
    ¬ Sicher beispielSchluessel (run (Welt.step beispielSchluessel) (Welt.leer beispielUmgebung) doppelteRotation) := by
  refine ⟨beispielSchluessel_kollisionsfrei, fun sicher => ?_⟩
  have rejected := sicher.not_veraltetAngenommen 0 "cookie" .personal
  have accepted : veraltetAngenommen beispielSchluessel
      (run (Welt.step beispielSchluessel) (Welt.leer beispielUmgebung) doppelteRotation) 0 "cookie" .personal = true := by
    decide +kernel
  rw [accepted] at rejected
  cases rejected

end Einsatzcockpit.Zugang
