import Einsatzcockpit.Verleih.Records

namespace Einsatzcockpit.Verleih

open Raising Relational Transition

def offen (artikelId : Nat) (p : VerleihPosition) : Bool := p.status == .ausgeliehen && p.artikelId == some artikelId

/-- An article is marked as lent when it is in an open position, and it is in
no two. -/
structure Artikelstand (artikel : List VerleihArtikel) (positionen : List VerleihPosition) : Prop where
  einmal : ∀ a ∈ artikel, a.istMengenartikel = false → positionen.countP (offen a.id) ≤ 1
  ausgeliehen : ∀ a ∈ artikel, a.istMengenartikel = false →
    (a.verfuegbarkeit = some .ausgeliehen ↔ 0 < positionen.countP (offen a.id))

def Ausleihstand (ausleihen : List VerleihAusleihe) (positionen : List VerleihPosition) : Prop :=
  ∀ l ∈ ausleihen, (∃ p ∈ positionen, p.ausleiheId = l.id) →
    (l.status = .zurueckgegeben ↔ ∀ p ∈ positionen, p.ausleiheId = l.id → p.status = .zurueckgegeben)

structure Db.Geformt (db : Db) : Prop where
  artikel : ∀ a ∈ db.artikel, a.id ≠ 0
  ausleihen : Numbered (·.id) db.ausleihen
  positionen : Numbered (·.id) db.positionen
  zugehoerig : ∀ p ∈ db.positionen, p.ausleiheId ≤ db.ausleihen.length

structure Db.Stimmt (db : Db) : Prop where
  geformt : db.Geformt
  artikel : Artikelstand db.artikel db.positionen
  ausleihen : Ausleihstand db.ausleihen db.positionen

section Markieren

variable (s : Sitzung) (wert : ArtikelVerfuegbarkeit)

def markiert (ids : List (Option Nat)) (a : VerleihArtikel) : VerleihArtikel :=
  if ids.contains (some a.id) && a.id != 0 && s.sieht a.orgId && !a.istMengenartikel then
    { a with verfuegbarkeit := some wert }
  else a

@[simp] theorem markiert_id (ids : List (Option Nat)) (a : VerleihArtikel) : (markiert s wert ids a).id = a.id := by
  unfold markiert
  split <;> rfl

@[simp] theorem markiert_menge (ids : List (Option Nat)) (a : VerleihArtikel) :
    (markiert s wert ids a).istMengenartikel = a.istMengenartikel := by
  unfold markiert
  split <;> rfl

theorem markArtikel_eq (artikel : List VerleihArtikel) (artikelId : Option Nat) :
    markArtikel s wert artikel artikelId = artikel.map (markiert s wert [artikelId]) := by
  unfold markArtikel
  split
  · refine (List.map_id'' (fun a => ?_) artikel).symm
    simp [markiert]
  · refine (List.map_id'' (fun a => ?_) artikel).symm
    unfold markiert
    split
    · next hit => simp at hit
    · rfl
  · next id positive =>
    refine List.map_congr_left fun a _ => ?_
    unfold markiert
    have same : (a.id == id && s.sieht a.orgId && !a.istMengenartikel) =
        ([some id].contains (some a.id) && a.id != 0 && s.sieht a.orgId && !a.istMengenartikel) := by
      by_cases equal : a.id = id
      · have nonzero : (id != 0) = true := bne_iff_ne.mpr positive
        simp [equal, nonzero]
      · simp [equal]
    simp only [same]

theorem markArtikel_foldl (ids : List (Option Nat)) (artikel : List VerleihArtikel) :
    ids.foldl (markArtikel s wert) artikel = artikel.map (markiert s wert ids) := by
  induction ids generalizing artikel with
  | nil =>
    refine (List.map_id'' (fun a => ?_) artikel).symm
    simp [markiert]
  | cons id rest ih =>
    rw [List.foldl_cons, markArtikel_eq, ih, List.map_map]
    refine List.map_congr_left fun a _ => ?_
    rw [Function.comp_apply]
    by_cases first : id = some a.id
    · simp only [markiert, first]
      grind
    · simp only [markiert]
      grind

theorem Artikelstand.markiert {artikel : List VerleihArtikel} {positionen positionen' : List VerleihPosition}
    (stand : Artikelstand artikel positionen) {ids : List (Option Nat)} (positive : ∀ a ∈ artikel, a.id ≠ 0)
    (betroffen : ∀ a ∈ artikel, a.istMengenartikel = false → some a.id ∈ ids → s.sieht a.orgId = true ∧
      positionen'.countP (offen a.id) ≤ 1 ∧ (wert = .ausgeliehen ↔ 0 < positionen'.countP (offen a.id)))
    (andere : ∀ a ∈ artikel, a.istMengenartikel = false → some a.id ∉ ids →
      positionen'.countP (offen a.id) = positionen.countP (offen a.id)) :
    Artikelstand (artikel.map (Verleih.markiert s wert ids)) positionen' := by
  have each (a : VerleihArtikel) (member : a ∈ artikel) (einzeln : a.istMengenartikel = false) :
      positionen'.countP (offen a.id) ≤ 1 ∧ ((Verleih.markiert s wert ids a).verfuegbarkeit = some .ausgeliehen ↔
        0 < positionen'.countP (offen a.id)) := by
    by_cases inside : some a.id ∈ ids
    · obtain ⟨visible, once, fits⟩ := betroffen a member einzeln inside
      refine ⟨once, ?_⟩
      have hit : (ids.contains (some a.id) && a.id != 0 && s.sieht a.orgId && !a.istMengenartikel) = true := by
        simp [inside, positive a member, visible, einzeln]
      rw [Verleih.markiert, if_pos hit]
      simpa using fits
    · have missed : (ids.contains (some a.id) && a.id != 0 && s.sieht a.orgId && !a.istMengenartikel) = false := by
        simp [inside]
      rw [Verleih.markiert, missed, if_neg Bool.false_ne_true, andere a member einzeln inside]
      exact ⟨stand.einmal a member einzeln, stand.ausgeliehen a member einzeln⟩
  refine ⟨fun a' marked einzeln => ?_, fun a' marked einzeln => ?_⟩
  · obtain ⟨a, member, rfl⟩ := List.mem_map.mp marked
    rw [markiert_menge] at einzeln
    rw [markiert_id]
    exact (each a member einzeln).1
  · obtain ⟨a, member, rfl⟩ := List.mem_map.mp marked
    rw [markiert_menge] at einzeln
    rw [markiert_id]
    exact (each a member einzeln).2

end Markieren

structure Neu (ausleiheId : Nat) (p : VerleihPosition) : Prop where
  ausleiheId : p.ausleiheId = ausleiheId
  status : p.status = .ausgeliehen

section AddAlle

variable {s : Sitzung} {db db' : Db} {ausleiheId orgId : Nat}

theorem addAlle_ok {artikelNr : PositionDaten → Option String} {positionen : List PositionDaten}
    (ok : addAlle s ausleiheId orgId artikelNr db positionen = .ok db') :
    ∃ neu, db' = { db with
        positionen := db.positionen ++ neu
        artikel := db.artikel.map (markiert s .ausgeliehen (positionen.map (·.artikelId))) } ∧
      neu.map (·.id) = List.range' (db.positionen.length + 1) neu.length ∧ (∀ p ∈ neu, Neu ausleiheId p) ∧
      neu.map (·.artikelId) = positionen.map (·.artikelId) := by
  induction positionen generalizing db with
  | nil =>
    cases ok
    refine ⟨[], ?_, rfl, List.forall_mem_nil _, rfl⟩
    rw [List.append_nil, ← markArtikel_foldl]
    rfl
  | cons daten rest ih =>
    rw [addAlle, foldlM_cons_eq_ok] at ok
    obtain ⟨next, added, later⟩ := ok
    simp only [neuePosition, bind_eq_ok, demand_eq_ok, require_eq_ok, pure_eq_ok] at added
    obtain ⟨p, ⟨bezeichnung, -, menge, -, _, -, row⟩, rfl⟩ := added
    obtain ⟨neu, rfl, ids, each, articles⟩ := ih later
    refine ⟨p :: neu, ?_, ?_, ?_, ?_⟩
    · simp only [← markArtikel_foldl, List.append_assoc, List.singleton_append, List.map_cons, List.foldl_cons]
    · simp only [List.length_append, List.length_singleton] at ids
      rw [List.map_cons, ids, List.length_cons, List.range'_succ, ← row]
    · refine List.forall_mem_cons.mpr ⟨?_, each⟩
      rw [← row]
      exact ⟨rfl, rfl⟩
    · rw [List.map_cons, articles, List.map_cons, ← row]

end AddAlle

theorem countP_neu {ausleiheId : Nat} {neu : List VerleihPosition} (each : ∀ p ∈ neu, Neu ausleiheId p) (id : Nat) :
    neu.countP (offen id) = (neu.map (·.artikelId)).count (some id) := by
  rw [List.count, List.countP_map]
  refine List.countP_congr fun p member => ?_
  simp [offen, (each p member).status]

/-- Articles that a request may open positions for: each is then in at most one,
and the session sees it. -/
def Leihbar (s : Sitzung) (db : Db) (positionen : List PositionDaten) : Prop :=
  ∀ a ∈ db.artikel, a.istMengenartikel = false →
    (positionen.map (·.artikelId)).count (some a.id) + db.positionen.countP (offen a.id) ≤ 1 ∧
      (some a.id ∈ positionen.map (·.artikelId) → s.sieht a.orgId = true)

def Sichtbar (s : Sitzung) (db : Db) (p : VerleihPosition) : Prop :=
  ∀ a ∈ db.artikel, a.istMengenartikel = false → p.artikelId = some a.id → s.sieht a.orgId = true

/-- The requests that keep the statuses: articles are lent that are in no other
open position, an open position is returned, and a returned loan is not opened
again for nothing. -/
def Zulaessig (db : Db) (anfrage : Sitzung × Aktion) : Prop :=
  match anfrage.2 with
  | .createAusleihe _ _ positionen => Leihbar anfrage.1 db positionen
  | .addPositionen ausleiheId _ positionen => Leihbar anfrage.1 db positionen ∧
      (positionen ≠ [] ∨ (∀ l ∈ db.ausleihen, l.id = ausleiheId → l.status = .ausgeliehen) ∨
        db.positionenVon ausleiheId = [])
  | .returnPosition positionId =>
    ∀ p ∈ db.positionen, p.id = positionId → p.status = .ausgeliehen ∧ Sichtbar anfrage.1 db p
  | .returnAll ausleiheId =>
    ∀ p ∈ db.positionen, p.ausleiheId = ausleiheId → p.status = .ausgeliehen → Sichtbar anfrage.1 db p

instance (s : Sitzung) (db : Db) (positionen : List PositionDaten) : Decidable (Leihbar s db positionen) := by
  unfold Leihbar
  infer_instance

instance (s : Sitzung) (db : Db) (p : VerleihPosition) : Decidable (Sichtbar s db p) := by
  unfold Sichtbar
  infer_instance

instance (db : Db) (anfrage : Sitzung × Aktion) : Decidable (Zulaessig db anfrage) := by
  unfold Zulaessig
  split <;> infer_instance

section Oeffnen

variable {s : Sitzung} {db : Db} {ausleiheId : Nat} {neu : List VerleihPosition} {positionen : List PositionDaten}

theorem leihbar_artikel (stimmt : db.Stimmt) (leihbar : Leihbar s db positionen) (each : ∀ p ∈ neu, Neu ausleiheId p)
    (articles : neu.map (·.artikelId) = positionen.map (·.artikelId)) :
    Artikelstand (db.artikel.map (markiert s .ausgeliehen (positionen.map (·.artikelId)))) (db.positionen ++ neu) := by
  have count (id : Nat) : (db.positionen ++ neu).countP (offen id) =
      db.positionen.countP (offen id) + (positionen.map (·.artikelId)).count (some id) := by
    rw [List.countP_append, countP_neu each, articles]
  refine stimmt.artikel.markiert s .ausgeliehen stimmt.geformt.artikel (fun a member einzeln inside => ?_)
    (fun a member einzeln outside => ?_)
  · obtain ⟨once, visible⟩ := leihbar a member einzeln
    have some_ := List.count_pos_iff.mpr inside
    rw [count]
    refine ⟨visible inside, by omega, ?_⟩
    simp only [true_iff]
    omega
  · rw [count, List.count_eq_zero.mpr outside, Nat.add_zero]

theorem create_stimmt (stimmt : db.Stimmt) (leihbar : Leihbar s db positionen) {neueAusleihe : VerleihAusleihe}
    (id : neueAusleihe.id = db.ausleihen.length + 1) (status : neueAusleihe.status = .ausgeliehen)
    (ids : neu.map (·.id) = List.range' (db.positionen.length + 1) neu.length)
    (each : ∀ p ∈ neu, Neu neueAusleihe.id p) (articles : neu.map (·.artikelId) = positionen.map (·.artikelId)) :
    Db.Stimmt {
      artikel := db.artikel.map (markiert s .ausgeliehen (positionen.map (·.artikelId)))
      ausleihen := db.ausleihen ++ [neueAusleihe]
      positionen := db.positionen ++ neu } where
  geformt := {
    artikel := fun a' marked => by
      obtain ⟨a, member, rfl⟩ := List.mem_map.mp marked
      rw [markiert_id]
      exact stimmt.geformt.artikel a member
    ausleihen := stimmt.geformt.ausleihen.append id
    positionen := stimmt.geformt.positionen.append_all ids
    zugehoerig := fun p member => by
      rw [List.length_append, List.length_singleton]
      rcases List.mem_append.mp member with old | new
      · exact Nat.le_succ_of_le (stimmt.geformt.zugehoerig p old)
      · rw [(each p new).ausleiheId, id] }
  artikel := leihbar_artikel stimmt leihbar each articles
  ausleihen := fun l member some_ => by
    rcases List.mem_append.mp member with old | new
    · have known : l.id ≤ db.ausleihen.length := stimmt.geformt.ausleihen.le old
      have foreign (p : VerleihPosition) (inside : p ∈ neu) : p.ausleiheId ≠ l.id := by
        rw [(each p inside).ausleiheId, id]
        omega
      obtain ⟨p, inside, ofLoan⟩ := some_
      have was : p ∈ db.positionen := (List.mem_append.mp inside).resolve_right fun new => foreign p new ofLoan
      rw [stimmt.ausleihen l old ⟨p, was, ofLoan⟩]
      refine ⟨fun all q inside ofLoan => ?_, fun all q inside => all q (List.mem_append_left _ inside)⟩
      exact all q ((List.mem_append.mp inside).resolve_right fun new => foreign q new ofLoan) ofLoan
    · rw [List.mem_singleton.mp new] at some_ ⊢
      obtain ⟨p, inside, ofLoan⟩ := some_
      rw [status]
      refine ⟨fun returned => (by cases returned), fun all => ?_⟩
      rcases List.mem_append.mp inside with old | isNew
      · have bound := stimmt.geformt.zugehoerig p old
        omega
      · cases (each p isNew).status.symm.trans (all p inside ofLoan)

theorem fetchAusleihe_spec {l : VerleihAusleihe} (found : db.fetchAusleihe s ausleiheId = some l) :
    l ∈ db.ausleihen ∧ l.id = ausleiheId := by
  have hit := List.find?_some found
  simp only [Bool.and_eq_true, beq_iff_eq] at hit
  exact ⟨List.mem_of_find?_eq_some found, hit.1⟩

theorem Ausleihstand.setze {ausleihen : List VerleihAusleihe} {alte neue : List VerleihPosition}
    (stand : Ausleihstand ausleihen alte) {id : Nat} {werte : VerleihAusleihe → VerleihAusleihe}
    (keeps : ∀ l, (werte l).id = l.id)
    (andere : ∀ l ∈ ausleihen, l.id ≠ id → ((∃ p ∈ neue, p.ausleiheId = l.id) → ∃ p ∈ alte, p.ausleiheId = l.id) ∧
      ((∀ p ∈ neue, p.ausleiheId = l.id → p.status = .zurueckgegeben) ↔
        ∀ p ∈ alte, p.ausleiheId = l.id → p.status = .zurueckgegeben))
    (diese : ∀ l ∈ ausleihen, l.id = id → (∃ p ∈ neue, p.ausleiheId = id) →
      ((werte l).status = .zurueckgegeben ↔ ∀ p ∈ neue, p.ausleiheId = id → p.status = .zurueckgegeben)) :
    Ausleihstand (update (fun l => l.id == id) werte ausleihen) neue := by
  intro l' member some_
  obtain ⟨l, old, rfl⟩ := mem_update.mp member
  split at some_
  · next hit =>
    have same := beq_iff_eq.mp hit
    rw [if_pos hit]
    rw [keeps] at some_ ⊢
    rw [same] at some_ ⊢
    exact diese l old same some_
  · next missed =>
    rw [if_neg missed]
    have other : l.id ≠ id := fun same => missed (beq_iff_eq.mpr same)
    obtain ⟨was, all⟩ := andere l old other
    rw [stand l old (was some_), all]

end Oeffnen

section Zurueck

variable {s : Sitzung} {db : Db} {hit : VerleihPosition → Bool}

theorem countP_zurueck (jetzt : Zeit) (positionen : List VerleihPosition) (id : Nat) :
    (update hit (·.zurueck jetzt) positionen).countP (offen id) + positionen.countP (fun p => offen id p && hit p) =
      positionen.countP (offen id) := by
  have gone : (update hit (·.zurueck jetzt) positionen).countP (offen id) =
      positionen.countP fun p => offen id p && !hit p := by
    rw [List.countP_eq_length_filter, List.countP_eq_length_filter]
    exact congrArg List.length (filter_update_gone (offen id) hit (·.zurueck jetzt) positionen fun _ _ => rfl)
  rw [gone]
  clear gone
  induction positionen with
  | nil => rfl
  | cons p rest ih =>
    simp only [List.countP_cons]
    cases offen id p <;> cases hit p <;> simp <;> omega

section

variable (stimmt : db.Stimmt) (sichtbar : ∀ p ∈ db.positionen, hit p = true → p.status = .ausgeliehen ∧ Sichtbar s db p)
include stimmt sichtbar

theorem zurueck_artikel (jetzt : Zeit) :
    Artikelstand (db.artikel.map (markiert s .verfuegbar ((db.positionen.filter hit).map (·.artikelId))))
      (update hit (·.zurueck jetzt) db.positionen) := by
  refine stimmt.artikel.markiert s .verfuegbar stimmt.geformt.artikel (fun a member einzeln inside => ?_)
    (fun a member einzeln outside => ?_)
  · obtain ⟨p, picked, ofArtikel⟩ := List.mem_map.mp inside
    obtain ⟨isPosition, isHit⟩ := List.mem_filter.mp picked
    obtain ⟨open_, visible⟩ := sichtbar p isPosition isHit
    have some_ : 0 < db.positionen.countP (fun p => offen a.id p && hit p) :=
      List.countP_pos_iff.mpr ⟨p, isPosition, by simp [offen, open_, ofArtikel, isHit]⟩
    have moved := @countP_zurueck hit jetzt db.positionen a.id
    have once := stimmt.artikel.einmal a member einzeln
    refine ⟨visible a member einzeln ofArtikel, by omega, ?_⟩
    simp only [reduceCtorEq, false_iff]
    omega
  · have none : db.positionen.countP (fun p => offen a.id p && hit p) = 0 := by
      refine List.countP_eq_zero.mpr fun p isPosition both => outside ?_
      simp only [offen, Bool.and_eq_true, beq_iff_eq] at both
      exact List.mem_map.mpr ⟨p, List.mem_filter.mpr ⟨isPosition, both.2⟩, both.1.2⟩
    have moved := @countP_zurueck hit jetzt db.positionen a.id
    omega

theorem zurueck_stimmt {id : Nat}
    (ofLoan : ∀ p ∈ db.positionen, hit p = true → p.ausleiheId = id) (jetzt : Zeit)
    {werte : VerleihAusleihe → VerleihAusleihe} (keeps : ∀ l, (werte l).id = l.id)
    (diese : ∀ l ∈ db.ausleihen, l.id = id → (∃ p ∈ db.positionen, p.ausleiheId = id) →
      ((werte l).status = .zurueckgegeben ↔
        ∀ p ∈ db.positionen, p.ausleiheId = id → hit p = false → p.status = .zurueckgegeben)) :
    Db.Stimmt {
      artikel := db.artikel.map (markiert s .verfuegbar ((db.positionen.filter hit).map (·.artikelId)))
      ausleihen := update (fun l => l.id == id) werte db.ausleihen
      positionen := update hit (·.zurueck jetzt) db.positionen } where
  geformt := {
    artikel := fun a' marked => by
      obtain ⟨a, member, rfl⟩ := List.mem_map.mp marked
      rw [markiert_id]
      exact stimmt.geformt.artikel a member
    ausleihen := stimmt.geformt.ausleihen.of_map (map_update keeps _)
    positionen := by
      have ids : (update hit (·.zurueck jetzt) db.positionen).map (·.id) = db.positionen.map (·.id) :=
        @map_update VerleihPosition Nat (·.id) hit (·.zurueck jetzt) (fun _ => rfl) _
      exact stimmt.geformt.positionen.of_map ids
    zugehoerig := fun p' member => by
      obtain ⟨p, old, rfl⟩ := mem_update.mp member
      have bound := stimmt.geformt.zugehoerig p old
      rw [length_update]
      split
      · exact bound
      · exact bound }
  artikel := zurueck_artikel stimmt sichtbar jetzt
  ausleihen := by
    have of_new {p' : VerleihPosition} (inside : p' ∈ update hit (·.zurueck jetzt) db.positionen) :
        ∃ p ∈ db.positionen, p.ausleiheId = p'.ausleiheId ∧
          (p'.status = if hit p then .zurueckgegeben else p.status) := by
      obtain ⟨p, old, rfl⟩ := mem_update.mp inside
      refine ⟨p, old, ?_⟩
      split
      · exact ⟨rfl, rfl⟩
      · exact ⟨rfl, rfl⟩
    have to_new {p : VerleihPosition} (old : p ∈ db.positionen) :
        ∃ p' ∈ update hit (·.zurueck jetzt) db.positionen, p'.ausleiheId = p.ausleiheId ∧
          (p'.status = if hit p then .zurueckgegeben else p.status) := by
      refine ⟨if hit p then p.zurueck jetzt else p, mem_update.mpr ⟨p, old, rfl⟩, ?_⟩
      split
      · exact ⟨rfl, rfl⟩
      · exact ⟨rfl, rfl⟩
    refine stimmt.ausleihen.setze keeps (fun l member other => ⟨fun some_ => ?_, ?_⟩) fun l member same some_ => ?_
    · obtain ⟨p', inside, ofL⟩ := some_
      obtain ⟨p, old, sameLoan, -⟩ := of_new inside
      exact ⟨p, old, sameLoan.trans ofL⟩
    · constructor
      · intro all p old ofL
        obtain ⟨p', inside, sameLoan, status⟩ := to_new old
        have missed : hit p = false := by
          by_contra isHit
          exact other (ofL.symm.trans (ofLoan p old (Bool.not_eq_false _ ▸ isHit)))
        rw [missed, if_neg Bool.false_ne_true] at status
        exact status.symm.trans (all p' inside (sameLoan.trans ofL))
      · intro all p' inside ofL
        obtain ⟨p, old, sameLoan, status⟩ := of_new inside
        rw [status, all p old (sameLoan.trans ofL), ite_self]
    · obtain ⟨p', inside, ofL⟩ := some_
      obtain ⟨p, old, sameLoan, -⟩ := of_new inside
      rw [diese l member same ⟨p, old, sameLoan.trans ofL⟩]
      constructor
      · intro all q' isIn ofLoan'
        obtain ⟨q, was, loan, status⟩ := of_new isIn
        cases isHit : hit q with
        | true => rw [status, isHit, if_pos rfl]
        | false =>
          rw [status, isHit, if_neg Bool.false_ne_true]
          exact all q was (loan.trans ofLoan') isHit
      · intro all q was loan missed
        obtain ⟨q', isIn, sameLoan', status⟩ := to_new was
        rw [missed, if_neg Bool.false_ne_true] at status
        exact status.symm.trans (all q' isIn (sameLoan'.trans loan))

end

end Zurueck

theorem zurueck_id (jetzt : Zeit) (l : VerleihAusleihe) : (l.zurueck jetzt).id = l.id := by
  unfold VerleihAusleihe.zurueck
  split <;> rfl

theorem zurueck_status (jetzt : Zeit) (l : VerleihAusleihe) : (l.zurueck jetzt).status = .zurueckgegeben := by
  unfold VerleihAusleihe.zurueck
  split
  · assumption
  · rfl

section Anfragen

variable {s : Sitzung} {db db' : Db}

section

variable (stimmt : db.Stimmt)
include stimmt

theorem createAusleihe_stimmt {daten : AusleiheDaten} {erinnerung : Option Int}
    {positionen : List PositionDaten} (leihbar : Leihbar s db positionen)
    (ok : createAusleihe s db daten erinnerung positionen = .ok db') : db'.Stimmt := by
  obtain ⟨neu, rfl, ids, each, articles⟩ := addAlle_ok ok
  exact create_stimmt stimmt leihbar rfl rfl ids each articles

theorem returnPosition_stimmt {positionId : Nat}
    (zulaessig : ∀ p ∈ db.positionen, p.id = positionId → p.status = .ausgeliehen ∧ Sichtbar s db p)
    (ok : returnPosition s db positionId = .ok db') : db'.Stimmt := by
  simp only [returnPosition, bind_eq_ok, demand_eq_ok, pure_eq_ok] at ok
  obtain ⟨p, found, l, fetched, rfl⟩ := ok
  have member := List.mem_of_find?_eq_some found
  have atId : p.id = positionId := by simpa using List.find?_some found
  obtain ⟨isLoan, ofLoan⟩ := fetchAusleihe_spec fetched
  have only (q : VerleihPosition) (inside : q ∈ db.positionen) (hit : (q.id == p.id) = true) : q = p :=
    stimmt.geformt.positionen.inj inside member (beq_iff_eq.mp hit)
  have ids : (db.positionen.filter fun q => q.id == p.id).map (·.artikelId) = [p.artikelId] := by
    rw [filter_key (·.id) stimmt.geformt.positionen.nodup member]
    rfl
  have offenSichtbar := zulaessig p member atId
  have back {werte : VerleihAusleihe → VerleihAusleihe} (keeps : ∀ a, (werte a).id = a.id)
      (diese : ∀ a ∈ db.ausleihen, a.id = l.id → (∃ q ∈ db.positionen, q.ausleiheId = l.id) →
        ((werte a).status = .zurueckgegeben ↔
          ∀ q ∈ db.positionen, q.ausleiheId = l.id → (q.id == p.id) = false → q.status = .zurueckgegeben)) :
      Db.Stimmt {
        artikel := markArtikel s .verfuegbar db.artikel p.artikelId
        ausleihen := update (fun a => a.id == l.id) werte db.ausleihen
        positionen := update (fun q => q.id == p.id) (·.zurueck s.jetzt) db.positionen } := by
    rw [markArtikel_eq, ← ids]
    exact zurueck_stimmt stimmt (fun q inside hit => only q inside hit ▸ offenSichtbar)
      (fun q inside hit => only q inside hit ▸ ofLoan.symm) s.jetzt keeps diese
  split
  · next all =>
    refine back (zurueck_id s.jetzt) fun a _ _ _ => iff_of_true (zurueck_status s.jetzt a) fun q old loan missed => ?_
    simp only [Db.positionenVon, List.all_eq_true, List.mem_filter, and_imp, beq_iff_eq] at all
    exact all q (mem_update_of_false old missed) loan
  · next some_ =>
    have unchanged : update (fun a => a.id == l.id) (fun a => a) db.ausleihen = db.ausleihen := by
      simp only [update, ite_self, List.map_id']
    rw [← unchanged]
    refine back (fun _ => rfl) fun a inside same _ => ?_
    obtain rfl := stimmt.geformt.ausleihen.inj inside isLoan same
    rw [stimmt.ausleihen a isLoan ⟨p, member, ofLoan.symm⟩]
    refine iff_of_false (fun all => ?_) (fun all => some_ ?_)
    · cases (all p member ofLoan.symm).symm.trans offenSichtbar.1
    · simp only [Db.positionenVon, List.all_eq_true, List.mem_filter, and_imp, beq_iff_eq]
      intro q' inside loan
      obtain ⟨q, old, rfl⟩ := mem_update.mp inside
      cases hit : q.id == p.id with
      | true => rw [if_pos rfl]; rfl
      | false =>
        rw [hit, if_neg Bool.false_ne_true] at loan
        rw [if_neg Bool.false_ne_true]
        exact all q old loan hit

theorem returnAll_stimmt {ausleiheId : Nat}
    (zulaessig : ∀ p ∈ db.positionen, p.ausleiheId = ausleiheId → p.status = .ausgeliehen → Sichtbar s db p)
    (ok : returnAll s db ausleiheId = .ok db') : db'.Stimmt := by
  simp only [returnAll, bind_eq_ok, demand_eq_ok, pure_eq_ok] at ok
  obtain ⟨l, fetched, rfl⟩ := ok
  obtain ⟨isLoan, rfl⟩ := fetchAusleihe_spec fetched
  have ids : ((db.positionenVon l.id).filter fun p => p.status == .ausgeliehen).map (·.artikelId) =
      (db.positionen.filter fun p => p.ausleiheId == l.id && p.status == .ausgeliehen).map (·.artikelId) := by
    rw [Db.positionenVon, List.filter_filter]
    simp only [Bool.and_comm]
  rw [alleZurueck, ids, markArtikel_foldl]
  refine zurueck_stimmt stimmt (fun p inside hit => ?_) (fun p inside hit => ?_) s.jetzt (zurueck_id s.jetzt)
    fun a _ _ _ => iff_of_true (zurueck_status s.jetzt a) fun q _ loan missed => ?_
  · simp only [Bool.and_eq_true, beq_iff_eq] at hit
    exact ⟨hit.2, zulaessig p inside hit.1 hit.2⟩
  · simp only [Bool.and_eq_true, beq_iff_eq] at hit
    exact hit.1
  · rw [beq_iff_eq.mpr loan, Bool.true_and, beq_eq_false_iff_ne] at missed
    cases status : q.status with
    | ausgeliehen => exact absurd status missed
    | zurueckgegeben => rfl

theorem addPositionen_stimmt {ausleiheId orgId : Nat} {positionen : List PositionDaten}
    (leihbar : Leihbar s db positionen)
    (zulaessig : positionen ≠ [] ∨ (∀ l ∈ db.ausleihen, l.id = ausleiheId → l.status = .ausgeliehen) ∨
      db.positionenVon ausleiheId = [])
    (ok : addPositionen s db ausleiheId orgId positionen = .ok db') : db'.Stimmt := by
  simp only [addPositionen, bind_eq_ok, demand_eq_ok, pure_eq_ok] at ok
  obtain ⟨db₁, added, l, fetched, rfl⟩ := ok
  obtain ⟨neu, rfl, ids, each, articles⟩ := addAlle_ok added
  obtain ⟨isLoan, rfl⟩ := fetchAusleihe_spec fetched
  have opened (some_ : ∃ p ∈ db.positionen ++ neu, p.ausleiheId = l.id) :
      ¬ ∀ p ∈ db.positionen ++ neu, p.ausleiheId = l.id → p.status = .zurueckgegeben := by
    intro all
    cases neu with
    | cons p rest =>
      have new := each p (List.mem_cons_self ..)
      cases (all p (List.mem_append_right _ (List.mem_cons_self ..)) new.ausleiheId).symm.trans new.status
    | nil =>
      rw [List.append_nil] at some_ all
      rcases zulaessig with some' | lent | none
      · exact some' (List.map_eq_nil_iff.mp articles.symm)
      · have returned := (stimmt.ausleihen l isLoan some_).mpr all
        cases returned.symm.trans (lent l isLoan rfl)
      · obtain ⟨p, inside, loan⟩ := some_
        have listed : p ∈ db.positionenVon l.id := List.mem_filter.mpr ⟨inside, beq_iff_eq.mpr loan⟩
        rw [none] at listed
        cases listed
  have back {werte : VerleihAusleihe → VerleihAusleihe} (keeps : ∀ a, (werte a).id = a.id)
      (lent : (werte l).status ≠ .zurueckgegeben) :
      Db.Stimmt {
        artikel := db.artikel.map (markiert s .ausgeliehen (positionen.map (·.artikelId)))
        ausleihen := update (fun a => a.id == l.id) werte db.ausleihen
        positionen := db.positionen ++ neu } := by
    refine ⟨⟨fun a' marked => ?_, stimmt.geformt.ausleihen.of_map (map_update keeps _),
      stimmt.geformt.positionen.append_all ids, fun p inside => ?_⟩, leihbar_artikel stimmt leihbar each articles, ?_⟩
    · obtain ⟨a, member, rfl⟩ := List.mem_map.mp marked
      rw [markiert_id]
      exact stimmt.geformt.artikel a member
    · rw [length_update]
      rcases List.mem_append.mp inside with old | new
      · exact stimmt.geformt.zugehoerig p old
      · rw [(each p new).ausleiheId]
        exact stimmt.geformt.ausleihen.le isLoan
    · refine stimmt.ausleihen.setze keeps (fun a _ other => ?_) fun a member same some_ => ?_
      · have foreign {p : VerleihPosition} (inside : p ∈ db.positionen ++ neu) (loan : p.ausleiheId = a.id) :
            p ∈ db.positionen := by
          refine (List.mem_append.mp inside).resolve_right fun new => other ?_
          rw [← loan, (each p new).ausleiheId]
        constructor
        · rintro ⟨p, inside, loan⟩
          exact ⟨p, foreign inside loan, loan⟩
        exact ⟨fun all p old => all p (List.mem_append_left _ old), fun all p inside loan => all p (foreign inside loan) loan⟩
      · obtain rfl := stimmt.geformt.ausleihen.inj member isLoan same
        exact iff_of_false lent (opened some_)
  split
  · exact back (fun _ => rfl) fun returned => by cases returned
  · next lent =>
    have unchanged : update (fun a => a.id == l.id) (fun a => a) db.ausleihen = db.ausleihen := by
      simp only [update, ite_self, List.map_id']
    have kept := back (fun _ => rfl) lent
    rw [unchanged] at kept
    exact kept

theorem step_stimmt {anfrage : Sitzung × Aktion} (zulaessig : Zulaessig db anfrage) :
    (step db anfrage).Stimmt := by
  unfold step
  split
  · next db' ok =>
    obtain ⟨s, aktion⟩ := anfrage
    cases aktion with
    | createAusleihe => exact createAusleihe_stimmt stimmt zulaessig ok
    | addPositionen => exact addPositionen_stimmt stimmt zulaessig.1 zulaessig.2 ok
    | returnPosition => exact returnPosition_stimmt stimmt zulaessig ok
    | returnAll => exact returnAll_stimmt stimmt zulaessig ok
  · exact stimmt

theorem returnAll_zweimal {ausleiheId : Nat}
    (some_ : ∃ p ∈ db.positionen, p.ausleiheId = ausleiheId)
    (returned : ∀ p ∈ db.positionen, p.ausleiheId = ausleiheId → p.status = .zurueckgegeben) :
    step db (s, .returnAll ausleiheId) = db := by
  unfold step
  split
  · next db' ok =>
    have ran : returnAll s db ausleiheId = .ok db' := ok
    simp only [returnAll, bind_eq_ok, demand_eq_ok, pure_eq_ok] at ran
    obtain ⟨l, fetched, rfl⟩ := ran
    obtain ⟨isLoan, rfl⟩ := fetchAusleihe_spec fetched
    have none : ((db.positionenVon l.id).filter fun p => p.status == .ausgeliehen) = [] := by
      refine List.filter_eq_nil_iff.mpr fun p inside open_ => ?_
      obtain ⟨old, loan⟩ := List.mem_filter.mp inside
      rw [returned p old (beq_iff_eq.mp loan)] at open_
      cases open_
    have same : update (fun p => p.ausleiheId == l.id && p.status == .ausgeliehen) (fun p => p.zurueck s.jetzt)
        db.positionen = db.positionen := by
      refine update_eq_self fun p inside => ?_
      by_cases loan : p.ausleiheId = l.id
      · rw [returned p inside loan]
        exact Bool.and_false _
      · rw [beq_eq_false_iff_ne.mpr loan, Bool.false_and]
    have kept : update (fun a => a.id == l.id) (fun a => a.zurueck s.jetzt) db.ausleihen = db.ausleihen := by
      refine (List.map_congr_left fun a inside => ?_).trans (List.map_id _)
      split
      · next hit =>
        obtain rfl := stimmt.geformt.ausleihen.inj inside isLoan (beq_iff_eq.mp hit)
        show a.zurueck s.jetzt = a
        unfold VerleihAusleihe.zurueck
        exact if_pos ((stimmt.ausleihen a isLoan some_).mpr returned)
      · rfl
    rw [alleZurueck, none, same, Db.setAusleihe, kept]
    rfl
  · rfl

end

end Anfragen

/-- Over every run of admissible requests the status of an article agrees with
the open positions, no article is in two of them, the status of a loan agrees
with its positions, and to return a returned loan again changes nothing. -/
theorem verleih_stimmt (artikel : List VerleihArtikel) (nummern : ∀ a ∈ artikel, a.id ≠ 0)
    (frei : ∀ a ∈ artikel, a.istMengenartikel = false → a.verfuegbarkeit ≠ some .ausgeliehen)
    (anfragen : List (Sitzung × Aktion)) (zulaessig : Meets step Zulaessig { artikel } anfragen) :
    let db := run step { artikel } anfragen
    (∀ a ∈ db.artikel, a.istMengenartikel = false → db.positionen.countP (offen a.id) ≤ 1 ∧
      (a.verfuegbarkeit = some .ausgeliehen ↔ ∃ p ∈ db.positionen, p.status = .ausgeliehen ∧ p.artikelId = some a.id)) ∧
    (∀ l ∈ db.ausleihen, (∃ p ∈ db.positionen, p.ausleiheId = l.id) →
      (l.status = .zurueckgegeben ↔ ∀ p ∈ db.positionen, p.ausleiheId = l.id → p.status = .zurueckgegeben)) ∧
    ∀ s ausleiheId, (∃ p ∈ db.positionen, p.ausleiheId = ausleiheId) →
      (∀ p ∈ db.positionen, p.ausleiheId = ausleiheId → p.status = .zurueckgegeben) →
      step db (s, .returnAll ausleiheId) = db := by
  intro db
  have start : Db.Stimmt { artikel } := by
    refine ⟨⟨nummern, .nil, .nil, List.forall_mem_nil _⟩, ⟨fun a _ _ => Nat.zero_le 1, fun a member einzeln => ?_⟩,
      List.forall_mem_nil _⟩
    exact iff_of_false (frei a member einzeln) (lt_irrefl 0)
  have stimmt : db.Stimmt := run_induction Db.Stimmt (fun _ _ held ok => step_stimmt held ok) start zulaessig
  refine ⟨fun a member einzeln => ⟨stimmt.artikel.einmal a member einzeln, ?_⟩, stimmt.ausleihen,
    fun s ausleiheId some_ returned => returnAll_zweimal stimmt some_ returned⟩
  rw [stimmt.artikel.ausgeliehen a member einzeln, List.countP_pos_iff]
  simp only [offen, Bool.and_eq_true, beq_iff_eq]

def pumpe : VerleihArtikel := { id := 1, orgId := some 1 }

def verleihe (jetzt : Zeit) : Sitzung × Aktion :=
  ({ kontext := some 1, jetzt },
    .createAusleihe { lageId := 1, orgId := 1, name := "Bauer" } none [{ artikelId := some 1, bezeichnung := some "Pumpe" }])

def nimmZurueck (jetzt : Zeit) (positionId : Nat) : Sitzung × Aktion :=
  ({ kontext := some 1, jetzt }, .returnPosition positionId)

/-- A pump is lent, returned and lent again. -/
theorem verleih_stimmt_pumpe :
    let db := run step { artikel := [pumpe] } [verleihe 0, nimmZurueck 1 1, verleihe 2]
    db.artikel.map (·.verfuegbarkeit) = [some .ausgeliehen] ∧
      db.ausleihen.map (·.status) = [.zurueckgegeben, .ausgeliehen] ∧
      ∀ a ∈ db.artikel, a.istMengenartikel = false → db.positionen.countP (offen a.id) ≤ 1 := by
  refine ⟨by decide +kernel, by decide +kernel, fun a member einzeln => ?_⟩
  have zulaessig : Meets step Zulaessig { artikel := [pumpe] } [verleihe 0, nimmZurueck 1 1, verleihe 2] := by
    decide +kernel
  have law := verleih_stimmt [pumpe] (by decide) (by decide) [verleihe 0, nimmZurueck 1 1, verleihe 2] zulaessig
  exact (law.1 a member einzeln).1

/-- The first loan is returned a second time while the pump is lent again; and
one request lends it twice. -/
theorem verleih_verfehlt :
    let db := run step { artikel := [pumpe] } [verleihe 0, nimmZurueck 1 1, verleihe 2]
    (step db (nimmZurueck 3 1)).artikel.map (·.verfuegbarkeit) = [some .verfuegbar] ∧
      (step db (nimmZurueck 3 1)).positionen.map (·.status) = [.zurueckgegeben, .ausgeliehen] ∧
      step db (nimmZurueck 3 1) ≠ db ∧
      (run step { artikel := [pumpe] } [verleihe 0, verleihe 1]).positionen.countP (offen 1) = 2 := by
  decide +kernel

end Einsatzcockpit.Verleih
