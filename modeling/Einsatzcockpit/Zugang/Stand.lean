import Einsatzcockpit.Lib.Run
import Einsatzcockpit.Zugang.Vorgang

namespace Einsatzcockpit.Zugang

open Raising Relational

inductive Schritt where
  | lade (zugangId : Nat)
  | stelleZugangAus (a : Aussteller)
  | stelleQrZugangAus (a : Aussteller) (neu : Bool)
  | widerrufe (einheitId : Nat) (grund : String) (userId : Option Nat) (typ : Option Typ) (now : Zeit)
  | verlaengere (einheitId : Nat) (cfg : OrgEinstellungen) (now : Zeit)
  | sitzungAnlegen (e : Einloesung)

section Schritte

variable (schluessel : Schluessel)

def Vorgang.schritt (v : Vorgang) : Schritt → Except String Vorgang
  | .lade zugangId => .ok (v.lade zugangId)
  | .stelleZugangAus a => Zugang.stelleZugangAus schluessel v a
  | .stelleQrZugangAus a neu => Zugang.stelleQrZugangAus schluessel v a neu
  | .widerrufe einheitId grund userId typ now => .ok (Zugang.widerrufe v einheitId grund userId typ now)
  | .verlaengere einheitId cfg now => Zugang.verlaengere v einheitId cfg now
  | .sitzungAnlegen e => Zugang.sitzungAnlegen v e

def Vorgang.zuDrehen (v : Vorgang) : Schritt → List LageEinheitZugang
  | .stelleZugangAus a => (v.sperre a.einheit.id .personal).toList
  | .stelleQrZugangAus a _ => (v.sperre a.einheit.id .qr).toList
  | .widerrufe einheitId _ _ typ _ => v.zuWiderrufen einheitId typ
  | _ => []

/-- No row that the step rotates or revokes has been rotated or revoked by others
since the transaction loaded it. -/
def Vorgang.Frisch (v : Vorgang) (s : Schritt) : Prop := ∀ z ∈ v.zuDrehen s, (v.kopie z).generation = z.generation

def FrischeSchritte : Vorgang → List Schritt → Prop
  | _, [] => True
  | v, s :: rest => v.Frisch s ∧ Yields (v.schritt schluessel s) fun v' => FrischeSchritte v' rest

instance (v : Vorgang) (s : Schritt) : Decidable (v.Frisch s) := inferInstanceAs (Decidable (∀ z ∈ v.zuDrehen s, _))

instance decidableFrischeSchritte : (v : Vorgang) → (schritte : List Schritt) → Decidable (FrischeSchritte schluessel v schritte)
  | _, [] => .isTrue trivial
  | v, s :: rest =>
    have : DecidablePred fun v' => FrischeSchritte schluessel v' rest := fun v' => decidableFrischeSchritte v' rest
    inferInstanceAs (Decidable (v.Frisch s ∧ Yields (v.schritt schluessel s) fun v' => FrischeSchritte schluessel v' rest))

end Schritte

/-- The committed database, what each transaction in progress saw at its first read,
and the tokens that were given out. -/
structure Welt where
  db : Db
  vorgaenge : Nat → Option Db := fun _ => none
  ausgaben : List Ausgabe := []

inductive Ereignis where
  | beginn (nummer : Nat)
  | ende (nummer : Nat) (schritte : List Schritt)
  | pruefung (now : Zeit) (cookieWert : String) (typ : Typ)
  | umgebung (umgebung : Umgebung)

namespace Welt

variable (schluessel : Schluessel)

/-- The rows that a transaction changes stay locked from its first step to its commit,
so its steps are taken together, there. -/
def vorgang (w : Welt) (ansicht : Db) : Vorgang := { db := w.db, ansicht, ausgaben := w.ausgaben }

def step (w : Welt) : Ereignis → Welt
  | .beginn nummer => { w with vorgaenge := Function.update w.vorgaenge nummer (some w.db) }
  | .ende nummer schritte =>
    match w.vorgaenge nummer with
    | none => w
    | some ansicht =>
      let vorgaenge := Function.update w.vorgaenge nummer none
      match schritte.foldlM (Vorgang.schritt schluessel) (w.vorgang ansicht) with
      | .ok v => { db := v.db, vorgaenge, ausgaben := v.ausgaben }
      | .error _ => { w with vorgaenge }
  | .pruefung now cookieWert typ => { w with db := (sitzungPruefenMitGrund schluessel w.db now cookieWert typ).2 }
  | .umgebung umgebung => { w with db := { w.db with umgebung } }

def Frisch (w : Welt) : Ereignis → Prop
  | .ende nummer schritte => ∀ ansicht ∈ w.vorgaenge nummer, FrischeSchritte schluessel (w.vorgang ansicht) schritte
  | _ => True

instance (w : Welt) (e : Ereignis) : Decidable (w.Frisch schluessel e) :=
  match e with
  | .ende nummer schritte =>
    inferInstanceAs (Decidable (∀ ansicht ∈ w.vorgaenge nummer, FrischeSchritte schluessel (w.vorgang ansicht) schritte))
  | .beginn _ | .pruefung .. | .umgebung _ => .isTrue trivial

def leer (umgebung : Umgebung) : Welt := { db := { umgebung } }

end Welt

/-- What is older than the last rotation or revocation of its access is rejected, and a
personal session is accepted for the leader and the number it was issued for. -/
structure Sicher (schluessel : Schluessel) (w : Welt) : Prop where
  token : ∀ a ∈ w.ausgaben, ∀ zugang, w.db.zugaenge.get? a.zugangId = some zugang → a.drehung < zugang.drehung →
    ∀ now typ, (tokenPruefen schluessel w.db now a.token typ).1 ≠ .ok
  sitzung : ∀ now cookieWert typ p db', sitzungPruefenMitGrund schluessel w.db now cookieWert typ = (.ok p, db') →
    ∃ zugang, w.db.zugaenge.get? p.session.zugangId = some zugang ∧ ¬ p.session.drehung < zugang.drehung
  person : ∀ now cookieWert p db', sitzungPruefenMitGrund schluessel w.db now cookieWert .personal = (.ok p, db') →
    ∃ zugang leaderId leader, w.db.zugaenge.get? p.session.zugangId = some zugang ∧
      (w.db.umgebung.einheit zugang.einheitId).bind (·.leaderAssignmentId) = some leaderId ∧
      w.db.umgebung.leader leaderId = some leader ∧ leader.endAt = none ∧
      p.session.bindung = { leaderId := some leaderId, phoneE164 := leader.phoneE164, phoneVersion := leader.phoneVersion }

/-- Each access is still there, and its generation has grown with its rotations. -/
def Gewachsen (w w' : Welt) : Prop :=
  ∀ zugang ∈ w.db.zugaenge.rows, ∃ zugang', w'.db.zugaenge.get? zugang.id = some zugang' ∧ zugang.drehung ≤ zugang'.drehung ∧
    (zugang.drehung < zugang'.drehung → zugang.generation < zugang'.generation)

structure Stand where
  id : Nat
  typ : Typ
  generation : Nat
  tokenHash : Option String
  bindung : Bindung
  drehung : Nat

def LageEinheitZugang.stand (zugang : LageEinheitZugang) : Stand where
  id := zugang.id
  typ := zugang.typ
  generation := zugang.generation
  tokenHash := zugang.tokenHash
  bindung := zugang.bindung
  drehung := zugang.drehung

/-- The generation counts the rotations, and the token is the one of the generation. -/
structure Stand.Ordentlich (schluessel : Schluessel) (z : Stand) : Prop where
  generation : z.generation = z.drehung
  token : ∀ hash, z.tokenHash = some hash → hash = schluessel.ableitung z.typ z.id z.generation

/-- `r` is what has become of the access since it was read as `c`. -/
structure Stand.Spaeter (c r : Stand) : Prop where
  id : r.id = c.id
  typ : r.typ = c.typ
  drehung : c.drehung ≤ r.drehung
  gleich : r.drehung = c.drehung → r.tokenHash = c.tokenHash ∧ r.bindung = c.bindung

structure Stand.Gedreht (schluessel : Schluessel) (c r : Stand) : Prop where
  id : r.id = c.id
  typ : r.typ = c.typ
  generation : r.generation = c.generation + 1
  drehung : r.drehung = c.drehung + 1
  token : ∀ hash, r.tokenHash = some hash → hash = schluessel.ableitung r.typ r.id r.generation

def LageEinheitZugangSession.anker (session : LageEinheitZugangSession) : Nat × Nat × Nat × Bindung :=
  (session.zugangId, session.generation, session.drehung, session.bindung)

/-- A session that was created for the access as it was at `z`, or before. -/
structure LageEinheitZugangSession.Gebunden (session : LageEinheitZugangSession) (z : Stand) : Prop where
  generation : session.generation = session.drehung
  drehung : session.drehung ≤ z.drehung
  bindung : session.drehung = z.drehung → session.bindung = z.bindung

/-- A token of the access as it was at `z`, or before. -/
structure Ausgabe.Gebunden (schluessel : Schluessel) (a : Ausgabe) (z : Stand) : Prop where
  token : a.token = schluessel.tokenAbleiten z.typ z.id a.drehung
  drehung : a.drehung ≤ z.drehung

section Stand

variable {schluessel : Schluessel} {b c r : Stand} {geladen neu aktuell : LageEinheitZugang}

namespace Stand

theorem Spaeter.refl (z : Stand) : z.Spaeter z := ⟨rfl, rfl, le_rfl, fun _ => ⟨rfl, rfl⟩⟩

theorem Spaeter.trans (first : b.Spaeter c) (second : c.Spaeter r) : b.Spaeter r := by
  refine ⟨second.id.trans first.id, second.typ.trans first.typ, first.drehung.trans second.drehung, fun same => ?_⟩
  have before := first.drehung
  have after := second.drehung
  obtain ⟨tokenLater, bindungLater⟩ := second.gleich (by omega)
  obtain ⟨token, bindung⟩ := first.gleich (by omega)
  exact ⟨tokenLater.trans token, bindungLater.trans bindung⟩

theorem Gedreht.spaeter (gedreht : Gedreht schluessel c r) : c.Spaeter r := by
  have later := gedreht.drehung
  exact ⟨gedreht.id, gedreht.typ, by omega, fun same => absurd same (by omega)⟩

theorem Gedreht.ordentlich (gedreht : Gedreht schluessel c r) (ordentlich : c.Ordentlich schluessel) :
    r.Ordentlich schluessel := by
  refine ⟨?_, gedreht.token⟩
  rw [gedreht.generation, gedreht.drehung, ordentlich.generation]

theorem Spaeter.eq_of_generation (spaeter : c.Spaeter r) (copy : c.Ordentlich schluessel) (row : r.Ordentlich schluessel)
    (fresh : c.generation = r.generation) : c = r := by
  have same : r.drehung = c.drehung := by
    rw [← row.generation, ← copy.generation, fresh]
  obtain ⟨token, bindung⟩ := spaeter.gleich same
  have id := spaeter.id
  have typ := spaeter.typ
  cases c
  cases r
  simp only at fresh same token bindung id typ
  rw [fresh, same, token, bindung, id, typ]

end Stand

theorem LageEinheitZugangSession.Gebunden.spaeter {session : LageEinheitZugangSession} (gebunden : session.Gebunden c)
    (spaeter : c.Spaeter r) : session.Gebunden r := by
  refine ⟨gebunden.generation, gebunden.drehung.trans spaeter.drehung, fun same => ?_⟩
  have before := gebunden.drehung
  have after := spaeter.drehung
  rw [gebunden.bindung (by omega), (spaeter.gleich (by omega)).2]

theorem LageEinheitZugangSession.Gebunden.anker {session other : LageEinheitZugangSession} (gebunden : other.Gebunden r)
    (same : session.anker = other.anker) : session.Gebunden r := by
  simp only [LageEinheitZugangSession.anker, Prod.mk.injEq] at same
  obtain ⟨-, generation, drehung, bindung⟩ := same
  refine ⟨?_, ?_, ?_⟩
  · rw [generation, drehung]
    exact gebunden.generation
  · rw [drehung]
    exact gebunden.drehung
  · rw [drehung, bindung]
    exact gebunden.bindung

theorem LageEinheitZugangSession.revokeIn_anker (ids : List Nat) (grund : String) (now : Zeit)
    (session : LageEinheitZugangSession) : (session.revokeIn ids grund now).anker = session.anker := by
  unfold revokeIn
  split <;> rfl

theorem Ausgabe.Gebunden.spaeter {a : Ausgabe} (gebunden : a.Gebunden schluessel c) (spaeter : c.Spaeter r) :
    a.Gebunden schluessel r := by
  refine ⟨?_, gebunden.drehung.trans spaeter.drehung⟩
  rw [gebunden.token, spaeter.id, spaeter.typ]

theorem geschrieben_self {α : Type} [DecidableEq α] (geladen aktuell : α) : geschrieben geladen geladen aktuell = aktuell :=
  if_pos rfl

theorem geschrieben_frisch {α : Type} [DecidableEq α] (aktuell neu : α) : geschrieben aktuell neu aktuell = neu := by
  unfold geschrieben
  split
  · next same => exact same.symm
  · rfl

theorem stand_schreibe_of_frisch (fresh : geladen.stand = aktuell.stand) (id : neu.id = geladen.id) (typ : neu.typ = geladen.typ) :
    (LageEinheitZugang.schreibe geladen neu aktuell).stand = neu.stand := by
  simp only [LageEinheitZugang.stand, LageEinheitZugang.bindung, Stand.mk.injEq, Bindung.mk.injEq] at fresh
  obtain ⟨sameId, sameTyp, generation, tokenHash, ⟨leaderId, phoneE164, phoneVersion⟩, drehung⟩ := fresh
  simp only [LageEinheitZugang.stand, LageEinheitZugang.bindung, LageEinheitZugang.schreibe, generation, tokenHash, leaderId,
    phoneE164, phoneVersion, drehung, geschrieben_frisch, id, typ, sameId, sameTyp]

theorem stand_schreibe_of_gleich (same : neu.stand = geladen.stand) :
    (LageEinheitZugang.schreibe geladen neu aktuell).stand = aktuell.stand := by
  simp only [LageEinheitZugang.stand, LageEinheitZugang.bindung, Stand.mk.injEq, Bindung.mk.injEq] at same
  obtain ⟨-, -, generation, tokenHash, ⟨leaderId, phoneE164, phoneVersion⟩, drehung⟩ := same
  simp only [LageEinheitZugang.stand, LageEinheitZugang.bindung, LageEinheitZugang.schreibe, generation, tokenHash, leaderId,
    phoneE164, phoneVersion, drehung, geschrieben_self]

end Stand

section Db

variable (schluessel : Schluessel)

def Folgt : Keyed LageEinheitZugang.id → Keyed LageEinheitZugang.id → Prop :=
  Keyed.Follows fun z z' : LageEinheitZugang => z.stand.Spaeter z'.stand

/-- Every session and every token that was given out belongs to an access. -/
structure Db.Gut (db : Db) (ausgaben : List Ausgabe) : Prop where
  zugaenge : ∀ z ∈ db.zugaenge.rows, z.stand.Ordentlich schluessel
  sitzungen : ∀ s ∈ db.sitzungen.rows, ∃ z, db.zugaenge.get? s.zugangId = some z ∧ s.Gebunden z.stand
  ausgaben : ∀ a ∈ ausgaben, ∃ z, db.zugaenge.get? a.zugangId = some z ∧ a.Gebunden schluessel z.stand

structure Db.Alt (ansicht db : Db) : Prop where
  zugaenge : ∀ z ∈ ansicht.zugaenge.rows, z.stand.Ordentlich schluessel
  folgt : Folgt ansicht.zugaenge db.zugaenge

def Kopie (db : Db) (c : LageEinheitZugang) : Prop :=
  c.stand.Ordentlich schluessel ∧ ∃ z, db.zugaenge.get? c.id = some z ∧ c.stand.Spaeter z.stand

structure Vorgang.Gut (v : Vorgang) : Prop where
  db : v.db.Gut schluessel v.ausgaben
  ansicht : v.ansicht.Alt schluessel v.db
  karte : ∀ c ∈ v.karte, Kopie schluessel v.db c

end Db

variable {schluessel : Schluessel} {db db' db'' : Db} {ausgaben : List Ausgabe}

theorem Folgt.refl (zugaenge : Keyed LageEinheitZugang.id) : Folgt zugaenge zugaenge :=
  Keyed.Follows.refl (fun z => Stand.Spaeter.refl z.stand) zugaenge

theorem Folgt.trans {a b c : Keyed LageEinheitZugang.id} (first : Folgt a b) (second : Folgt b c) : Folgt a c := by
  have transitive : ∀ x y z : LageEinheitZugang, x.stand.Spaeter y.stand → y.stand.Spaeter z.stand → x.stand.Spaeter z.stand :=
    fun _ _ _ => Stand.Spaeter.trans
  exact Keyed.Follows.trans transitive first second

theorem Folgt.modify {zugaenge : Keyed LageEinheitZugang.id} {id : Nat} {f : LageEinheitZugang → LageEinheitZugang}
    (keeps : ∀ z, (f z).id = z.id) (spaeter : ∀ z, zugaenge.get? id = some z → z.stand.Spaeter (f z).stand) :
    Folgt zugaenge (zugaenge.modify id f keeps) :=
  Keyed.Follows.modify (fun z => Stand.Spaeter.refl z.stand) keeps spaeter

theorem Folgt.insert {zugaenge : Keyed LageEinheitZugang.id} (neu : Nat → LageEinheitZugang) (numbered : ∀ id, (neu id).id = id) :
    Folgt zugaenge (zugaenge.insert neu numbered) :=
  Keyed.Follows.insert (fun z => Stand.Spaeter.refl z.stand) neu numbered

theorem Db.Gut.leer (umgebung : Umgebung) : ({ umgebung } : Db).Gut schluessel [] :=
  ⟨fun _ member => absurd member List.not_mem_nil, fun _ member => absurd member List.not_mem_nil,
    fun _ member => absurd member List.not_mem_nil⟩

theorem Db.Gut.alt (gut : db.Gut schluessel ausgaben) : db.Alt schluessel db := ⟨gut.zugaenge, Folgt.refl _⟩

theorem Db.Alt.folge (alt : db.Alt schluessel db') (folgt : Folgt db'.zugaenge db''.zugaenge) : db.Alt schluessel db'' :=
  ⟨alt.zugaenge, alt.folgt.trans folgt⟩

theorem Kopie.folge {c : LageEinheitZugang} (kopie : Kopie schluessel db c) (folgt : Folgt db.zugaenge db'.zugaenge) :
    Kopie schluessel db' c := by
  obtain ⟨ordentlich, z, found, spaeter⟩ := kopie
  obtain ⟨z', found', later⟩ := folgt _ z found
  exact ⟨ordentlich, z', found', spaeter.trans later⟩

section

variable (gut : db.Gut schluessel ausgaben)
include gut

theorem Db.Gut.folge (folgt : Folgt db.zugaenge db'.zugaenge)
    (ordentlich : ∀ z ∈ db'.zugaenge.rows, z.stand.Ordentlich schluessel)
    (sitzungen : ∀ s ∈ db'.sitzungen.rows, ∃ s' ∈ db.sitzungen.rows, s.anker = s'.anker) : db'.Gut schluessel ausgaben := by
  refine ⟨ordentlich, fun s member => ?_, fun a member => ?_⟩
  · obtain ⟨s', isSession, anker⟩ := sitzungen s member
    obtain ⟨z, found, gebunden⟩ := gut.sitzungen s' isSession
    obtain ⟨z', found', spaeter⟩ := folgt _ z found
    have zugangId : s.zugangId = s'.zugangId := congrArg Prod.fst anker
    exact ⟨z', zugangId ▸ found', (gebunden.spaeter spaeter).anker anker⟩
  · obtain ⟨z, found, gebunden⟩ := gut.ausgaben a member
    obtain ⟨z', found', spaeter⟩ := folgt _ z found
    exact ⟨z', found', gebunden.spaeter spaeter⟩

theorem Db.Gut.ausgabe {a : Ausgabe} {z : LageEinheitZugang}
    (found : db.zugaenge.get? a.zugangId = some z) (gebunden : a.Gebunden schluessel z.stand) :
    db.Gut schluessel (a :: ausgaben) := by
  refine ⟨gut.zugaenge, gut.sitzungen, fun other member => ?_⟩
  rcases List.mem_cons.mp member with rfl | old
  · exact ⟨z, found, gebunden⟩
  · exact gut.ausgaben other old

theorem Db.Gut.setzeSitzung (sessionId : Nat)
    (f : LageEinheitZugangSession → LageEinheitZugangSession) (keeps : ∀ s, (f s).id = s.id)
    (anker : ∀ s, (f s).anker = s.anker) : (db.setzeSitzung sessionId f keeps).Gut schluessel ausgaben := by
  refine gut.folge (Folgt.refl _) gut.zugaenge fun s member => ?_
  have member : s ∈ (db.sitzungen.modify sessionId f keeps).rows := member
  rcases Keyed.mem_modify_cases member with same | ⟨old, found, rfl⟩
  · exact ⟨s, same, rfl⟩
  · exact ⟨old, Keyed.mem_of_get? found, anker old⟩

theorem Db.Gut.neueSitzung {z : LageEinheitZugang} {neu : Nat → LageEinheitZugangSession}
    {f : LageEinheitZugangSession → LageEinheitZugangSession}
    (numbered : ∀ id, (neu id).id = id) (keeps : ∀ s, (f s).id = s.id) (anker : ∀ s, (f s).anker = s.anker) (found : ∀ id, db.zugaenge.get? (neu id).zugangId = some z)
    (gebunden : ∀ id, (neu id).Gebunden z.stand) :
    { db with sitzungen := (db.sitzungen.map f keeps).insert neu numbered : Db }.Gut schluessel ausgaben := by
  refine ⟨gut.zugaenge, fun s member => ?_, gut.ausgaben⟩
  have member : s ∈ ((db.sitzungen.map f keeps).insert neu numbered).rows := member
  rcases Keyed.mem_insert_cases member with old | rfl
  · obtain ⟨s', isSession, rfl⟩ := Keyed.mem_map.mp old
    obtain ⟨z', found', gebunden'⟩ := gut.sitzungen s' isSession
    have zugangId : (f s').zugangId = s'.zugangId := congrArg Prod.fst (anker s')
    exact ⟨z', zugangId ▸ found', gebunden'.anker (anker s')⟩
  · exact ⟨z, found _, gebunden _⟩

end

end Einsatzcockpit.Zugang
