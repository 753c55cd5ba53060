import Einsatzcockpit.Zugang.Stand

namespace Einsatzcockpit.Zugang

open Raising Relational

variable {schluessel : Schluessel} {v v' v'' : Vorgang} {z geladen neu aktuell : LageEinheitZugang}

/-- A transaction has come from `v` to `v'`. -/
structure Weiter (schluessel : Schluessel) (v v' : Vorgang) : Prop where
  gut : v'.Gut schluessel
  folgt : Folgt v.db.zugaenge v'.db.zugaenge

theorem Weiter.refl (gut : v.Gut schluessel) : Weiter schluessel v v := ⟨gut, Folgt.refl _⟩

theorem Weiter.trans (first : Weiter schluessel v v') (second : Weiter schluessel v' v'') : Weiter schluessel v v'' :=
  ⟨second.gut, first.folgt.trans second.folgt⟩

theorem schreibe_id (geladen neu aktuell : LageEinheitZugang) : (LageEinheitZugang.schreibe geladen neu aktuell).id = aktuell.id :=
  rfl

theorem get?_speichere (found : v.db.zugaenge.get? geladen.id = some aktuell) (id : Nat) :
    (v.speichere geladen neu).db.zugaenge.get? id =
      if id = geladen.id then some (LageEinheitZugang.schreibe geladen neu aktuell) else v.db.zugaenge.get? id :=
  Keyed.get?_modify_of_some found (LageEinheitZugang.schreibe geladen neu) (fun _ => rfl) id

namespace Vorgang.Gut

section

variable (gut : v.Gut schluessel)
include gut

theorem kopie (found : v.db.zugaenge.get? z.id = some z) :
    (v.kopie z).stand.Ordentlich schluessel ∧ (v.kopie z).stand.Spaeter z.stand := by
  unfold Vorgang.kopie
  cases loaded : v.karte.find? (·.id = z.id) with
  | none => exact ⟨gut.db.zugaenge z (Keyed.mem_of_get? found), Stand.Spaeter.refl _⟩
  | some c =>
    obtain ⟨ordentlich, z', found', spaeter⟩ := gut.karte c (List.mem_of_find?_eq_some loaded)
    have id : c.id = z.id := by simpa using List.find?_some loaded
    rw [id, found, Option.some.injEq] at found'
    subst found'
    exact ⟨ordentlich, spaeter⟩

theorem stand_kopie (found : v.db.zugaenge.get? z.id = some z)
    (fresh : (v.kopie z).generation = z.generation) : (v.kopie z).stand = z.stand := by
  obtain ⟨ordentlich, spaeter⟩ := gut.kopie found
  exact spaeter.eq_of_generation ordentlich (gut.db.zugaenge z (Keyed.mem_of_get? found)) fresh

theorem lade (zugangId : Nat) : Weiter schluessel v (v.lade zugangId) := by
  unfold Vorgang.lade
  split
  · exact Weiter.refl gut
  · next z found =>
    split
    · exact Weiter.refl gut
    · refine ⟨⟨gut.db, gut.ansicht, fun c member => ?_⟩, Folgt.refl _⟩
      rcases List.mem_cons.mp member with rfl | old
      · have ordentlich := gut.ansicht.zugaenge c (Keyed.mem_of_get? found)
        exact ⟨ordentlich, gut.ansicht.folgt _ c (Keyed.get?_self found)⟩
      · exact gut.karte c old

theorem revokeSessions (zugangId : Nat) (grund : String) (now : Zeit) :
    Weiter schluessel v (v.revokeSessions zugangId grund now) := by
  have folgt : Folgt v.db.zugaenge (v.revokeSessions zugangId grund now).db.zugaenge := Folgt.refl _
  refine ⟨⟨gut.db.folge folgt gut.db.zugaenge fun s member => ?_, gut.ansicht.folge folgt, gut.karte⟩, folgt⟩
  obtain ⟨old, isSession, rfl⟩ := List.mem_map.mp member
  exact ⟨old, isSession, old.revokeIn_anker _ _ _⟩

theorem speichere (found : v.db.zugaenge.get? geladen.id = some aktuell) (id : neu.id = geladen.id)
    (ordentlich : neu.stand.Ordentlich schluessel)
    (written : (LageEinheitZugang.schreibe geladen neu aktuell).stand.Ordentlich schluessel)
    (spaeter : aktuell.stand.Spaeter (LageEinheitZugang.schreibe geladen neu aktuell).stand)
    (kopie : neu.stand.Spaeter (LageEinheitZugang.schreibe geladen neu aktuell).stand) :
    Weiter schluessel v (v.speichere geladen neu) := by
  have folgt : Folgt v.db.zugaenge (v.speichere geladen neu).db.zugaenge := by
    have modified : ∀ z, v.db.zugaenge.get? geladen.id = some z → z.stand.Spaeter (LageEinheitZugang.schreibe geladen neu z).stand := by
      intro z isRow
      rw [found, Option.some.injEq] at isRow
      exact isRow ▸ spaeter
    exact Folgt.modify (schreibe_id geladen neu) modified
  refine ⟨⟨gut.db.folge folgt (fun z member => ?_) fun s member => ⟨s, member, rfl⟩, gut.ansicht.folge folgt, fun c member => ?_⟩,
    folgt⟩
  · have member : z ∈ (v.db.zugaenge.modify geladen.id (LageEinheitZugang.schreibe geladen neu) fun _ => rfl).rows := member
    rcases Keyed.mem_modify_cases member with old | ⟨old, isRow, rfl⟩
    · exact gut.db.zugaenge z old
    · rw [found, Option.some.injEq] at isRow
      exact isRow ▸ written
  · rcases List.mem_cons.mp member with rfl | old
    · exact ⟨ordentlich, LageEinheitZugang.schreibe geladen c aktuell, (get?_speichere found c.id).trans (if_pos id), kopie⟩
    · exact (gut.karte c (List.mem_of_mem_filter old)).folge folgt

theorem drehe (found : v.db.zugaenge.get? aktuell.id = some aktuell)
    (fresh : geladen.stand = aktuell.stand)
    (gedreht : geladen.stand.Gedreht schluessel { neu with drehung := geladen.drehung + 1 }.stand) :
    Weiter schluessel v (v.speichere geladen { neu with drehung := aktuell.drehung + 1 }) ∧
      ∃ z, (v.speichere geladen { neu with drehung := aktuell.drehung + 1 }).db.zugaenge.get? aktuell.id = some z ∧
        z.stand = { neu with drehung := aktuell.drehung + 1 }.stand ∧ z.stand.Ordentlich schluessel := by
  have same : geladen.id = aktuell.id := congrArg Stand.id fresh
  have drehung : geladen.drehung = aktuell.drehung := congrArg Stand.drehung fresh
  have id : neu.id = geladen.id := gedreht.id
  have written : (LageEinheitZugang.schreibe geladen { neu with drehung := aktuell.drehung + 1 } aktuell).stand = _ :=
    stand_schreibe_of_frisch fresh id gedreht.typ
  rw [fresh, drehung] at gedreht
  have ordentlich := gedreht.ordentlich (gut.db.zugaenge aktuell (Keyed.mem_of_get? found))
  rw [← written] at gedreht ordentlich
  rw [← same] at found
  exact ⟨gut.speichere found id (written ▸ ordentlich) ordentlich gedreht.spaeter (written ▸ Stand.Spaeter.refl _), _,
    (get?_speichere found aktuell.id).trans (if_pos same.symm), written, ordentlich⟩

theorem rotiere (now : Zeit) (found : v.db.zugaenge.get? aktuell.id = some aktuell)
    (fresh : geladen.stand = aktuell.stand)
    (gedreht : geladen.stand.Gedreht schluessel { neu with drehung := geladen.drehung + 1 }.stand) :
    Weiter schluessel v (v.rotiere schluessel now aktuell geladen neu) := by
  obtain ⟨gespeichert, z, isRow, stand, ordentlich⟩ := gut.drehe found fresh gedreht
  have offen := gespeichert.gut.revokeSessions aktuell.id "rotation" now
  refine ⟨⟨offen.gut.db.ausgabe isRow ?_, offen.gut.ansicht, offen.gut.karte⟩, (gespeichert.trans offen).folgt⟩
  have generation := ordentlich.generation
  rw [stand] at generation ⊢
  exact ⟨congrArg _ generation, le_rfl⟩

theorem legeAn (orgId lageId einheitId : Nat) (typ : Typ) (phoneVersion : Nat) (now : Zeit) :
    Weiter schluessel v (v.legeAn orgId lageId einheitId typ phoneVersion now).1 := by
  have folgt : Folgt v.db.zugaenge (v.legeAn orgId lageId einheitId typ phoneVersion now).1.db.zugaenge :=
    Folgt.insert _ fun _ => rfl
  have leer : ((v.legeAn orgId lageId einheitId typ phoneVersion now).2).stand.Ordentlich schluessel :=
    ⟨rfl, fun _ none => by cases none⟩
  refine ⟨⟨gut.db.folge folgt (fun z member => ?_) fun s member => ⟨s, member, rfl⟩, gut.ansicht.folge folgt, fun c member => ?_⟩,
    folgt⟩
  · rcases List.mem_append.mp member with old | new
    · exact gut.db.zugaenge z old
    · rw [List.mem_singleton.mp new]
      exact leer
  · rcases List.mem_cons.mp member with rfl | old
    · exact ⟨leer, _, (Keyed.get?_insert _ _).trans (if_pos rfl), Stand.Spaeter.refl _⟩
    · exact (gut.karte c old).folge folgt

end

end Vorgang.Gut

theorem kopie_cons {v : Vorgang} {rest : List LageEinheitZugang} (karte : v.karte = z :: rest) : v.kopie z = z := by
  simp [Vorgang.kopie, karte]

theorem kopie_speichere (id : neu.id = geladen.id) (other : z.id ≠ geladen.id) : (v.speichere geladen neu).kopie z = v.kopie z := by
  have notNew : ¬ neu.id = z.id := fun same => other (same.symm.trans id)
  have kept : ∀ c : LageEinheitZugang, decide (decide (c.id ≠ geladen.id) = true ∧ decide (c.id = z.id) = true) = decide (c.id = z.id) := by
    intro c
    by_cases isOther : c.id = z.id
    · simp [isOther, other]
    · simp [isOther]
  simp only [Vorgang.kopie, Vorgang.speichere, List.find?_cons, notNew, decide_false, List.find?_filter, kept]

theorem legeAn_neu (v : Vorgang) (orgId lageId einheitId : Nat) (typ : Typ) (phoneVersion : Nat) (now : Zeit) :
    let neu := v.legeAn orgId lageId einheitId typ phoneVersion now
    neu.1.db.zugaenge.get? neu.2.id = some neu.2 ∧ neu.1.kopie neu.2 = neu.2 := by
  exact ⟨(Keyed.get?_insert _ _).trans (if_pos rfl), kopie_cons rfl⟩

theorem gedreht_mitPersonal (z : LageEinheitZugang) (a : Aussteller) (leader : LageEinheitLeader) :
    z.stand.Gedreht schluessel { z.mitPersonal schluessel a leader with drehung := z.drehung + 1 }.stand :=
  ⟨rfl, rfl, rfl, rfl, fun _ same => (Option.some.inj same).symm⟩

theorem gedreht_mitQr (z : LageEinheitZugang) (a : Aussteller) :
    z.stand.Gedreht schluessel { z.mitQr schluessel a with drehung := z.drehung + 1 }.stand :=
  ⟨rfl, rfl, rfl, rfl, fun _ same => (Option.some.inj same).symm⟩

theorem gedreht_mitWiderruf (z : LageEinheitZugang) (grund : String) (userId : Option Nat) (now : Zeit) :
    z.stand.Gedreht schluessel { z.mitWiderruf grund userId now with drehung := z.drehung + 1 }.stand :=
  ⟨rfl, rfl, rfl, rfl, fun _ isHash => by cases isHash⟩

theorem get?_sperre {einheitId : Nat} {typ : Typ} (locked : v.sperre einheitId typ = some z) :
    v.db.zugaenge.get? z.id = some z :=
  Keyed.get?_of_mem (List.mem_of_find?_eq_some locked)

namespace Vorgang.Gut

theorem stand_kopie_of_sperre {einheitId : Nat} {typ : Typ} (gut : v.Gut schluessel)
    (frisch : ∀ z ∈ (v.sperre einheitId typ).toList, (v.kopie z).generation = z.generation)
    (locked : v.sperre einheitId typ = some z) : (v.kopie z).stand = z.stand :=
  gut.stand_kopie (get?_sperre locked) (frisch z (by rw [locked]; exact List.mem_singleton_self z))

theorem stelleZugangAus {a : Aussteller} (gut : v.Gut schluessel) (frisch : v.Frisch (.stelleZugangAus a))
    (ok : Zugang.stelleZugangAus schluessel v a = .ok v') : Weiter schluessel v v' := by
  simp only [Zugang.stelleZugangAus, bind_eq_ok, require_eq_ok, demand_eq_ok, pure_eq_ok] at ok
  obtain ⟨-, -, leader, -, -, -, -, -, rfl⟩ := ok
  cases locked : v.sperre a.einheit.id .personal with
  | some aktuell =>
    have fresh := gut.stand_kopie_of_sperre frisch locked
    exact gut.rotiere a.now (get?_sperre locked) fresh (gedreht_mitPersonal (v.kopie aktuell) a leader)
  | none =>
    have angelegt := gut.legeAn a.lage.orgId a.lage.id a.einheit.id .personal leader.phoneVersion a.now
    obtain ⟨found, kopie⟩ := legeAn_neu v a.lage.orgId a.lage.id a.einheit.id .personal leader.phoneVersion a.now
    exact angelegt.trans (angelegt.gut.rotiere a.now found (congrArg _ kopie) (gedreht_mitPersonal _ a leader))

theorem stelleQrZugangAus {a : Aussteller} {neu : Bool} (gut : v.Gut schluessel) (frisch : v.Frisch (.stelleQrZugangAus a neu))
    (ok : Zugang.stelleQrZugangAus schluessel v a neu = .ok v') : Weiter schluessel v v' := by
  simp only [Zugang.stelleQrZugangAus, bind_eq_ok, require_eq_ok] at ok
  obtain ⟨-, -, -, -, -, -, ok⟩ := ok
  cases locked : v.sperre a.einheit.id .qr with
  | some aktuell =>
    have found := get?_sperre locked
    have fresh := gut.stand_kopie_of_sperre frisch locked
    simp only [locked] at ok
    split at ok
    · -- the token of the generation that is valid
      rw [pure_eq_ok] at ok
      subst ok
      obtain ⟨ordentlich, -⟩ := gut.kopie found
      refine ⟨⟨gut.db.ausgabe found ?_, gut.ansicht, gut.karte⟩, Folgt.refl _⟩
      rw [← fresh]
      exact ⟨congrArg _ ordentlich.generation, le_rfl⟩
    · rw [pure_eq_ok] at ok
      subst ok
      exact gut.rotiere a.now found fresh (gedreht_mitQr (v.kopie aktuell) a)
  | none =>
    simp only [locked, pure_eq_ok] at ok
    subst ok
    have angelegt := gut.legeAn a.lage.orgId a.lage.id a.einheit.id .qr 1 a.now
    obtain ⟨found, -⟩ := legeAn_neu v a.lage.orgId a.lage.id a.einheit.id .qr 1 a.now
    exact angelegt.trans (angelegt.gut.rotiere a.now found rfl (gedreht_mitQr _ a))

section

variable (grund : String) (userId : Option Nat) (now : Zeit) (gut : v.Gut schluessel) (found : v.db.zugaenge.get? aktuell.id = some aktuell)
include grund userId now gut found

theorem widerrufeEinen (fresh : (v.kopie aktuell).stand = aktuell.stand) :
    Weiter schluessel v (Zugang.widerrufeEinen grund userId now v aktuell) := by
  obtain ⟨gespeichert, -⟩ := gut.drehe found fresh (gedreht_mitWiderruf (v.kopie aktuell) grund userId now)
  exact gespeichert.trans (gespeichert.gut.revokeSessions aktuell.id grund now)

theorem widerrufeEinen_andere (other : z.id ≠ aktuell.id) :
    (Zugang.widerrufeEinen grund userId now v aktuell).db.zugaenge.get? z.id = v.db.zugaenge.get? z.id ∧
      (Zugang.widerrufeEinen grund userId now v aktuell).kopie z = v.kopie z := by
  obtain ⟨-, spaeter⟩ := gut.kopie found
  have id : aktuell.id = (v.kopie aktuell).id := spaeter.id
  rw [id] at other found
  refine ⟨(get?_speichere found z.id).trans (if_neg other), ?_⟩
  exact kopie_speichere rfl other

end

section

variable (gut : v.Gut schluessel)
include gut

theorem widerrufe {einheitId : Nat} {grund : String} {userId : Option Nat} {typ : Option Typ} {now : Zeit}
    (frisch : v.Frisch (.widerrufe einheitId grund userId typ now)) :
    Weiter schluessel v (Zugang.widerrufe v einheitId grund userId typ now) := by
  have locked : ∀ z ∈ v.zuWiderrufen einheitId typ, v.db.zugaenge.get? z.id = some z ∧ (v.kopie z).generation = z.generation :=
    fun z member => ⟨Keyed.get?_of_mem (List.mem_of_mem_filter member), frisch z member⟩
  have distinct : ((v.zuWiderrufen einheitId typ).map (·.id)).Nodup :=
    v.db.zugaenge.nodup.sublist (List.filter_sublist.map _)
  unfold Zugang.widerrufe
  generalize v.zuWiderrufen einheitId typ = rows at locked distinct
  clear frisch
  induction rows generalizing v with
  | nil => exact Weiter.refl gut
  | cons aktuell rest ih =>
    obtain ⟨found, generation⟩ := locked aktuell (List.mem_cons_self ..)
    have first := gut.widerrufeEinen grund userId now found (gut.stand_kopie found generation)
    rw [List.map_cons, List.nodup_cons] at distinct
    refine first.trans (ih first.gut (fun z member => ?_) distinct.2)
    have other : z.id ≠ aktuell.id := fun same => distinct.1 (same ▸ List.mem_map_of_mem member)
    obtain ⟨row, kopie⟩ := gut.widerrufeEinen_andere grund userId now found other
    rw [row, kopie]
    exact locked z (List.mem_cons_of_mem _ member)

theorem verlaengere {einheitId : Nat} {cfg : OrgEinstellungen} {now : Zeit}
    (ok : Zugang.verlaengere v einheitId cfg now = .ok v') : Weiter schluessel v v' := by
  simp only [Zugang.verlaengere, bind_eq_ok, require_eq_ok, demand_eq_ok, pure_eq_ok] at ok
  obtain ⟨aktuell, locked, -, -, rfl⟩ := ok
  have found := get?_sperre locked
  obtain ⟨ordentlich, spaeter⟩ := gut.kopie found
  have written : (LageEinheitZugang.schreibe (v.kopie aktuell)
      { v.kopie aktuell with laeuftAbAt := some (now + stunden cfg.gkZugangGueltigkeitStunden) } aktuell).stand = aktuell.stand :=
    stand_schreibe_of_gleich rfl
  have id : aktuell.id = (v.kopie aktuell).id := spaeter.id
  have row := gut.db.zugaenge aktuell (Keyed.mem_of_get? found)
  rw [id] at found
  exact gut.speichere found rfl ordentlich (written.symm ▸ row) (written.symm ▸ Stand.Spaeter.refl _) (written.symm ▸ spaeter)

theorem sitzungAnlegen {e : Einloesung} (ok : Zugang.sitzungAnlegen v e = .ok v') :
    Weiter schluessel v v' := by
  simp only [Zugang.sitzungAnlegen, bind_eq_ok, require_eq_ok, demand_eq_ok, pure_eq_ok] at ok
  obtain ⟨zugang, loaded, -, -, -, -, rfl⟩ := ok
  obtain ⟨ordentlich, z, found, spaeter⟩ := gut.karte zugang (List.mem_of_find?_eq_some loaded)
  have gebunden : ∀ id, (neueSitzung e zugang id).Gebunden z.stand :=
    fun _ => ⟨ordentlich.generation, spaeter.drehung, fun same => (spaeter.gleich same.symm).2.symm⟩
  exact ⟨⟨gut.db.neueSitzung (fun _ => rfl) (LageEinheitZugangSession.revokeIn_id _ _ _)
    (LageEinheitZugangSession.revokeIn_anker _ _ _) (fun _ => found) gebunden, gut.ansicht.folge (Folgt.refl _),
    fun c member => (gut.karte c member).folge (Folgt.refl _)⟩, Folgt.refl _⟩

theorem schritt {s : Schritt} (frisch : v.Frisch s) (ok : v.schritt schluessel s = .ok v') :
    Weiter schluessel v v' := by
  cases s with
  | lade zugangId =>
    cases ok
    exact gut.lade zugangId
  | stelleZugangAus a => exact gut.stelleZugangAus frisch ok
  | stelleQrZugangAus a neu => exact gut.stelleQrZugangAus frisch ok
  | widerrufe einheitId grund userId typ now =>
    cases ok
    exact gut.widerrufe frisch
  | verlaengere einheitId cfg now => exact gut.verlaengere ok
  | sitzungAnlegen e => exact gut.sitzungAnlegen ok

theorem schritte {schritte : List Schritt} (frisch : FrischeSchritte schluessel v schritte)
    (ok : schritte.foldlM (Vorgang.schritt schluessel) v = .ok v') : Weiter schluessel v v' := by
  induction schritte generalizing v with
  | nil =>
    cases ok
    exact Weiter.refl gut
  | cons s rest ih =>
    obtain ⟨next, first, later⟩ := foldlM_cons_eq_ok.mp ok
    have step := gut.schritt frisch.1 first
    exact step.trans (ih step.gut (frisch.2 next first) later)

end

end Vorgang.Gut

end Einsatzcockpit.Zugang
