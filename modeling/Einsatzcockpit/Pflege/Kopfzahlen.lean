import Einsatzcockpit.Pflege.Wirkung

namespace Einsatzcockpit.Pflege

open Raising Relational Transition

structure Staerke.Begrenzt (staerke : Staerke) (gesamt : Int) : Prop where
  fuehrung : 0 ≤ staerke.fuehrung ∧ staerke.fuehrung ≤ gesamt
  agt : 0 ≤ staerke.agt ∧ staerke.agt ≤ gesamt
  sanitaeter : 0 ≤ staerke.sanitaeter ∧ staerke.sanitaeter ≤ gesamt

instance (staerke : Staerke) (gesamt : Int) : Decidable (staerke.Begrenzt gesamt) :=
  decidable_of_iff ((0 ≤ staerke.fuehrung ∧ staerke.fuehrung ≤ gesamt) ∧ (0 ≤ staerke.agt ∧ staerke.agt ≤ gesamt) ∧
    0 ≤ staerke.sanitaeter ∧ staerke.sanitaeter ≤ gesamt) ⟨fun h => ⟨h.1, h.2.1, h.2.2⟩, fun h => ⟨h.1, h.2, h.3⟩⟩

structure Bestand.Kopf (db : Bestand) (e : LageEinheit) : Prop where
  begrenzt : e.zahlen.Begrenzt e.zahlen.gesamt
  gezaehlt : e.personalModus = .liste → e.zahlen = zaehlen (db.aktive e)

def Bestand.Kopfzahlen (db : Bestand) : Prop := ∀ e ∈ db.einheiten, db.Kopf e

theorem zaehlen_begrenzt (personen : List LageEinheitPerson) : (zaehlen personen).Begrenzt (zaehlen personen).gesamt where
  fuehrung := ⟨Int.natCast_nonneg _, Int.ofNat_le.mpr List.countP_le_length⟩
  agt := ⟨Int.natCast_nonneg _, Int.ofNat_le.mpr List.countP_le_length⟩
  sanitaeter := ⟨Int.natCast_nonneg _, Int.ofNat_le.mpr List.countP_le_length⟩

theorem Staerke.Begrenzt.mono {staerke : Staerke} {gesamt mehr : Int} (begrenzt : staerke.Begrenzt gesamt)
    (le : gesamt ≤ mehr) : staerke.Begrenzt mehr where
  fuehrung := ⟨begrenzt.fuehrung.1, begrenzt.fuehrung.2.trans le⟩
  agt := ⟨begrenzt.agt.1, begrenzt.agt.2.trans le⟩
  sanitaeter := ⟨begrenzt.sanitaeter.1, begrenzt.sanitaeter.2.trans le⟩

def Sichtbar (s : Sitzung) (db : Bestand) (e : LageEinheit) : Prop := s.kontext = none ∨ db.aktive e = []

instance (s : Sitzung) (db : Bestand) (e : LageEinheit) : Decidable (Sichtbar s db e) :=
  inferInstanceAs (Decidable (_ ∨ _))

def Bestand.gilt (db : Bestand) (einheitId : Nat) (p : LageEinheit → Prop) : Prop :=
  ∀ e ∈ db.einheit? einheitId, p e

instance {db : Bestand} {einheitId : Nat} {p : LageEinheit → Prop} [DecidablePred p] :
    Decidable (db.gilt einheitId p) :=
  match found : db.einheit? einheitId with
  | none => .isTrue fun _ member => by simp [found] at member
  | some e => decidable_of_iff (p e) ⟨fun holds _ member => by
      rw [found] at member
      cases member
      exact holds, fun all => all e found⟩

/-- What a request has to respect: a unit that gives summed personnel away
keeps at least its partial headcounts, and whoever recounts a list sees it. -/
def Aktion.Passt (s : Sitzung) (db : Bestand) : Aktion → Prop
  | .modusWechseln _ einheitId modus =>
    db.gilt einheitId fun e => modus = "liste" → Sichtbar s db e
  | .personHinzufuegen .. => s.kontext = none
  | .verstaerken _ einheitId _ _ => db.gilt einheitId fun e => e.personalModus = .liste → s.kontext = none
  | .umbuchen _ vonId _ anzahl _ =>
    db.gilt vonId fun e => e.personalModus = .summe → e.zahlen.Begrenzt (e.zahlen.gesamt - anzahl.n)
  | .einheitAufteilen _ einheitId teile =>
    db.gilt einheitId fun e =>
      (e.personalModus = .summe →
        e.zahlen.Begrenzt (e.zahlen.gesamt - (teile.map fun teil => teil.anzahl.n).sum)) ∧
      (e.personalModus = .liste → Sichtbar s db e)
  | _ => True

instance (s : Sitzung) (db : Bestand) : (aktion : Aktion) → Decidable (aktion.Passt s db)
  | .modusWechseln _ einheitId modus =>
    inferInstanceAs (Decidable (db.gilt einheitId fun e => modus = "liste" → Sichtbar s db e))
  | .personHinzufuegen .. => inferInstanceAs (Decidable (s.kontext = none))
  | .verstaerken _ einheitId _ _ =>
    inferInstanceAs (Decidable (db.gilt einheitId fun e => e.personalModus = .liste → s.kontext = none))
  | .umbuchen _ vonId _ anzahl _ =>
    inferInstanceAs (Decidable (db.gilt vonId fun e =>
      e.personalModus = .summe → e.zahlen.Begrenzt (e.zahlen.gesamt - anzahl.n)))
  | .einheitAufteilen _ einheitId teile =>
    inferInstanceAs (Decidable (db.gilt einheitId fun e =>
      (e.personalModus = .summe →
        e.zahlen.Begrenzt (e.zahlen.gesamt - (teile.map fun teil => teil.anzahl.n).sum)) ∧
      (e.personalModus = .liste → Sichtbar s db e)))
  | .addResource .. | .personalSetzen .. | .personEntfernen .. | .abloesen .. | .verbandBilden ..
  | .verbandAufloesen .. | .ausstattungUmbuchen .. => .isTrue trivial

section Sehen

variable {s : Sitzung} {db : Bestand}

theorem aktivePersonen_sublist (e : LageEinheit) : (db.aktivePersonen s e).Sublist (db.aktive e) :=
  List.filter_sublist

theorem aktivePersonen_alle {e : LageEinheit} (sichtbar : Sichtbar s db e) : db.aktivePersonen s e = db.aktive e := by
  rcases sichtbar with offen | leer
  · exact List.filter_eq_self.mpr fun p _ => by simp [Sitzung.sieht, offen]
  · rw [Bestand.aktivePersonen, leer, List.filter_nil]

theorem kontext_none (geformt : db.Geformt) {p : LageEinheitPerson} (member : p ∈ db.personen)
    (seen : s.sieht p.orgId = true) : s.kontext = none := by
  rw [geformt.ohneOrg p member] at seen
  cases bound : s.kontext with
  | none => rfl
  | some org => simp [Sitzung.sieht, bound] at seen

end Sehen

structure Bestand.Stimmt (db : Bestand) : Prop extends db.Geformt where
  kopfzahlen : db.Kopfzahlen

section Kopf

variable {db db' : Bestand}

variable {e : LageEinheit} {f : LageEinheit → LageEinheit}

theorem kopf_of_aktive (kopf : db.Kopf e) (same : db'.aktive e = db.aktive e) : db'.Kopf e :=
  ⟨kopf.begrenzt, fun liste => same ▸ kopf.gezaehlt liste⟩

theorem Bestand.Stimmt.of_same (stimmt : db.Stimmt) (nur : NurAusstattung db db') : db'.Stimmt where
  einheiten := nur.einheiten ▸ stimmt.einheiten
  personen := nur.personen ▸ stimmt.personen
  ohneOrg := nur.personen ▸ stimmt.ohneOrg
  zugehoerig := by
    rw [nur.personen, nur.einheiten]
    exact stimmt.zugehoerig
  kopfzahlen := fun e member => by
    have old : e ∈ db.einheiten := nur.einheiten ▸ member
    refine kopf_of_aktive (stimmt.kopfzahlen e old) ?_
    unfold Bestand.aktive
    rw [nur.personen]

theorem kopf_gesamt {gesamt : Int} (summe : e.personalModus = .summe)
    (begrenzt : e.zahlen.Begrenzt gesamt) : db.Kopf (e.mitGesamt gesamt) where
  begrenzt := ⟨begrenzt.fuehrung, begrenzt.agt, begrenzt.sanitaeter⟩
  gezaehlt := fun liste => by
    rw [show e.personalModus = .liste from liste] at summe
    cases summe

theorem Bestand.Geformt.setEinheit (geformt : db.Geformt) {i : Nat}
    (keeps : ∀ e, (f e).id = e.id) : (db.setEinheit i f).Geformt where
  einheiten := numbered_setEinheit geformt.einheiten keeps
  personen := geformt.personen
  ohneOrg := geformt.ohneOrg
  zugehoerig := fun q member => by
    rw [Bestand.setEinheit, length_update]
    exact geformt.zugehoerig q member

theorem Bestand.Stimmt.update (stimmt : db.Stimmt) {p : LageEinheit → Bool}
    (id : ∀ e, (f e).id = e.id) (kopf : ∀ e ∈ db.einheiten, p e = true → db.Kopf (f e)) :
    ({ db with einheiten := Relational.update p f db.einheiten } : Bestand).Stimmt where
  einheiten := stimmt.einheiten.of_map (map_update id _)
  personen := stimmt.personen
  ohneOrg := stimmt.ohneOrg
  zugehoerig := fun q member => by
    rw [length_update]
    exact stimmt.zugehoerig q member
  kopfzahlen := fun e' member => by
    obtain ⟨e, old, rfl⟩ := mem_update.mp member
    split
    · next hit => exact kopf_of_aktive (kopf e old hit) rfl
    · exact kopf_of_aktive (stimmt.kopfzahlen e old) rfl

theorem Bestand.Stimmt.setEinheit (stimmt : db.Stimmt) {i : Nat}
    (keeps : ∀ e, (f e).id = e.id) (found : db.einheit? i = some e) (kopf : db.Kopf (f e)) :
    (db.setEinheit i f).Stimmt := by
  refine stimmt.update keeps fun e' member hit => ?_
  obtain ⟨inside, same⟩ := einheit?_spec found
  rw [stimmt.einheiten.inj member inside ((beq_iff_eq.mp hit).trans same.symm)]
  exact kopf

theorem Bestand.Stimmt.addEinheit (stimmt : db.Stimmt) (id : e.id = db.einheiten.length + 1)
    (kopf : db.Kopf e) : (db.addEinheit e).Stimmt where
  einheiten := stimmt.einheiten.append id
  personen := stimmt.personen
  ohneOrg := stimmt.ohneOrg
  zugehoerig := fun q member => by
    have bound := stimmt.zugehoerig q member
    simp only [Bestand.addEinheit, List.length_append, List.length_singleton]
    omega
  kopfzahlen := fun e' member => by
    rcases List.mem_append.mp member with old | new
    · exact kopf_of_aktive (stimmt.kopfzahlen e' old) rfl
    · obtain rfl := List.mem_singleton.mp new
      exact kopf_of_aktive kopf rfl

theorem neuBerechnet {s : Sitzung} {ids : List Nat} (nur : NurPersonen ids db db')
    (kopf : ∀ e ∈ db.einheiten, e.id ∉ ids → db.Kopf e)
    (sichtbar : ∀ e ∈ db'.einheiten, e.id ∈ ids → Sichtbar s db' e) : (ids.foldl (neuBerechnen s) db').Stimmt := by
  rw [neuBerechnen_foldl]
  have ids' := @map_update LageEinheit Nat (·.id) (fun e => ids.contains e.id)
    (fun e => e.setze (zaehlen (db'.aktivePersonen s e))) (fun _ => rfl) db'.einheiten
  refine ⟨⟨nur.geformt.einheiten.of_map ids', nur.geformt.personen, nur.geformt.ohneOrg, ?_⟩, ?_⟩
  · intro q member
    rw [length_update]
    exact nur.geformt.zugehoerig q member
  · intro e' member
    obtain ⟨e, inside, rfl⟩ := mem_update.mp member
    split
    · next hit =>
      have seen := aktivePersonen_alle (sichtbar e inside (List.contains_iff_mem.mp hit))
      rw [seen]
      exact ⟨zaehlen_begrenzt _, fun _ => rfl⟩
    · next missed =>
      have outside : e.id ∉ ids := fun inside => missed (List.contains_iff_mem.mpr inside)
      exact kopf_of_aktive (kopf e (nur.einheiten ▸ inside) outside) (nur.aktive e outside)

end Kopf

structure OhneTeilsummen (e : LageEinheit) : Prop where
  summe : e.personalModus = .summe
  fuehrung : e.staerkeFuehrung = none
  agt : e.staerkeAgt = none
  sanitaeter : e.staerkeSanitaeter = none

theorem OhneTeilsummen.begrenzt {e : LageEinheit} (ohne : OhneTeilsummen e) {gesamt : Int} (nonneg : 0 ≤ gesamt) :
    e.zahlen.Begrenzt gesamt := by
  constructor <;> simp only [LageEinheit.zahlen, ohne.fuehrung, ohne.agt, ohne.sanitaeter, Option.getD_none] <;>
    exact ⟨le_refl 0, nonneg⟩

theorem kopf_neu {db : Bestand} {e : LageEinheit} (ohne : OhneTeilsummen e) (gesamt : e.staerkeGesamt = none) :
    db.Kopf e where
  begrenzt := ohne.begrenzt (by simp only [LageEinheit.zahlen, gesamt, Option.getD_none, le_refl])
  gezaehlt := fun liste => by
    rw [ohne.summe] at liste
    cases liste

section Schritte

variable {s : Sitzung} {db db' : Bestand} {lage : MajorIncident} {einheitId : Nat}

section

variable (stimmt : db.Stimmt)
include stimmt

theorem personalSetzen_stimmt {gesamt fuehrung agt sanitaeter : Wert} {bemerkung : Option String}
    (ok : personalSetzen db lage einheitId gesamt fuehrung agt sanitaeter bemerkung = .ok db') : db'.Stimmt := by
  simp only [personalSetzen, bind_eq_ok, require_eq_ok, pure_eq_ok] at ok
  obtain ⟨e, hasE, _, summe, g, -, f, isF, a, isA, n, isN, _, ⟨fLe, aLe, nLe⟩, _, -, rfl⟩ := ok
  split
  · exact stimmt
  · refine stimmt.setEinheit (fun _ => rfl) (holeEinheit_ok hasE).1 ⟨?_, fun liste => ?_⟩
    · exact ⟨⟨(zahl_ok isF).2, fLe⟩, ⟨(zahl_ok isA).2, aLe⟩, ⟨(zahl_ok isN).2, nLe⟩⟩
    · rw [show e.personalModus = .liste from liste] at summe
      cases summe

theorem neuBerechnen_stimmt (nur : NurPersonen [einheitId] db db')
    (sichtbar : ∀ e ∈ db'.einheiten, e.id = einheitId → Sichtbar s db' e) : (neuBerechnen s db' einheitId).Stimmt :=
  neuBerechnet nur (fun e member _ => stimmt.kopfzahlen e member)
    fun e member inside => sichtbar e member (List.mem_singleton.mp inside)

theorem modusWechseln_stimmt {modus : String}
    (passt : db.gilt einheitId fun e => modus = "liste" → Sichtbar s db e)
    (ok : modusWechseln s db lage einheitId modus = .ok db') : db'.Stimmt := by
  simp only [modusWechseln, bind_eq_ok, demand_eq_ok, pure_eq_ok] at ok
  obtain ⟨e, hasE, m, read, rfl⟩ := ok
  have found := (holeEinheit_ok hasE).1
  split
  · exact stimmt
  · cases m with
    | summe =>
      refine stimmt.setEinheit (fun _ => rfl) found ⟨(stimmt.kopfzahlen e (einheit?_spec found).1).begrenzt, ?_⟩
      exact fun liste => by cases liste
    | liste =>
      have named : modus = "liste" := by
        unfold Modus.lies at read
        split at read
        · cases read
        · rfl
        · cases read
      have inside := einheit?_spec found
      have geformt := (stimmt.toGeformt.setEinheit (i := einheitId)
        (f := fun e => { e with personalModus := .liste }) fun _ => rfl)
      refine neuBerechnet (.refl [einheitId] geformt) (fun e' member outside => ?_) fun e' member hit => ?_
      · obtain ⟨old, was, rfl⟩ := mem_update.mp member
        split
        · next same =>
          rw [if_pos same] at outside
          exact absurd (List.mem_singleton.mpr (beq_iff_eq.mp same)) outside
        · exact kopf_of_aktive (stimmt.kopfzahlen old was) rfl
      · obtain ⟨old, was, rfl⟩ := mem_update.mp member
        have same : old.id = einheitId := by
          have hit := List.mem_singleton.mp hit
          split at hit <;> exact hit
        rw [stimmt.einheiten.inj was inside.1 (same.trans inside.2.symm)]
        have seen := passt e found named
        split <;> exact seen

theorem personHinzufuegen_stimmt {memberId : Option Nat} {name : Option String} {funktion : String}
    {qualifikationen : Option Qualifikationen} {herkunft : String} {bemerkung : Option String}
    (offen : s.kontext = none)
    (ok : personHinzufuegen s db lage einheitId memberId name funktion qualifikationen herkunft bemerkung = .ok db') :
    db'.Stimmt := by
  simp only [personHinzufuegen, bind_eq_ok, require_eq_ok, demand_eq_ok, pure_eq_ok] at ok
  obtain ⟨e, hasE, _, -, _, -, _, -, db₁, added, rfl⟩ := ok
  have bekannt := einheit_bekannt stimmt.toGeformt (holeEinheit_ok hasE).1
  exact neuBerechnen_stimmt stimmt (personAnlegen_nur stimmt.toGeformt bekannt added) fun _ _ _ => Or.inl offen

theorem personEntfernen_stimmt {personId : Nat}
    (ok : personEntfernen s db lage einheitId personId = .ok db') : db'.Stimmt := by
  simp only [personEntfernen, bind_eq_ok, pure_eq_ok] at ok
  obtain ⟨_, -, p, found, rfl⟩ := ok
  obtain ⟨member, seen, -, ofUnit, -⟩ := holePerson_ok found
  have offen := kontext_none stimmt.toGeformt member seen
  exact neuBerechnen_stimmt stimmt (ofUnit ▸ beenden_nur s stimmt.toGeformt member) fun _ _ _ => Or.inl offen

end

theorem personenAnlegen_nur {personen : List PersonDaten} (geformt : db.Geformt)
    (bekannt : einheitId ≤ db.einheiten.length)
    (ok : personen.foldlM (fun db daten => personAnlegen s db lage einheitId daten.verstaerkung) db = .ok db') :
    NurPersonen [einheitId] db db' := by
  refine foldlM_keeps (P := fun db₁ : Bestand => NurPersonen [einheitId] db db₁) (fun db₁ daten db₂ held added => ?_)
    (.refl _ geformt) ok
  exact held.trans (personAnlegen_nur held.geformt (held.einheiten ▸ bekannt) added)

theorem verstaerken_stimmt (stimmt : db.Stimmt) {anzahl : Wert} {personen : List PersonDaten}
    (passt : db.gilt einheitId fun e => e.personalModus = .liste → s.kontext = none)
    (ok : verstaerken s db lage einheitId anzahl personen = .ok db') : db'.Stimmt := by
  simp only [verstaerken, bind_eq_ok] at ok
  obtain ⟨e, hasE, ok⟩ := ok
  have found := (holeEinheit_ok hasE).1
  cases modus : e.personalModus with
  | summe =>
    simp only [modus, bind_eq_ok, require_eq_ok, pure_eq_ok] at ok
    obtain ⟨delta, -, _, positive, rfl⟩ := ok
    have kopf := stimmt.kopfzahlen e (einheit?_spec found).1
    exact stimmt.setEinheit (fun _ => rfl) found
      (kopf_gesamt modus (kopf.begrenzt.mono (le_add_of_nonneg_right positive.le)))
  | liste =>
    simp only [modus, bind_eq_ok, require_eq_ok, pure_eq_ok] at ok
    obtain ⟨_, -, db₁, added, rfl⟩ := ok
    have bekannt := einheit_bekannt stimmt.toGeformt found
    exact neuBerechnen_stimmt stimmt (personenAnlegen_nur stimmt.toGeformt bekannt added)
      fun _ _ _ => Or.inl (passt e found modus)

theorem abloesen_stimmt (stimmt : db.Stimmt) {personAltId : Nat} {memberId : Option Nat} {name funktion : Option String}
    (ok : abloesen s db lage einheitId personAltId memberId name funktion = .ok db') : db'.Stimmt := by
  simp only [abloesen, bind_eq_ok, require_eq_ok, pure_eq_ok] at ok
  obtain ⟨e, hasE, _, -, p, found, db₁, added, rfl⟩ := ok
  obtain ⟨member, seen, -, ofUnit, -⟩ := holePerson_ok found
  have offen := kontext_none stimmt.toGeformt member seen
  have ended := ofUnit ▸ beenden_nur s stimmt.toGeformt member
  have bekannt := einheit_bekannt stimmt.toGeformt (holeEinheit_ok hasE).1
  exact neuBerechnen_stimmt stimmt (ended.trans (personAnlegen_nur ended.geformt bekannt added))
    fun _ _ _ => Or.inl offen

theorem umbuchen_stimmt (stimmt : db.Stimmt) {vonId nachId : Nat} {anzahl : Wert} {personIds : List Nat}
    (passt : db.gilt vonId fun e => e.personalModus = .summe → e.zahlen.Begrenzt (e.zahlen.gesamt - anzahl.n))
    (ok : umbuchen s db lage vonId nachId anzahl personIds = .ok db') : db'.Stimmt := by
  obtain ⟨von, nach, ⟨hasVon, -⟩, ⟨hasNach, -⟩, verschieden, modi, wege⟩ := umbuchen_ok ok
  rcases wege with ⟨summe, delta, rfl, positive, -, rfl⟩ | ⟨-, personen, db₁, jemand, sub, moved, rfl⟩
  · have first := stimmt.setEinheit (f := (·.mitGesamt (von.zahlen.gesamt - delta))) (fun _ => rfl) hasVon
      (kopf_gesamt summe (passt von hasVon summe))
    have kopf := stimmt.kopfzahlen nach (einheit?_spec hasNach).1
    have still := einheit?_setEinheit_other (f := (·.mitGesamt (von.zahlen.gesamt - delta))) (fun _ => rfl)
      verschieden.symm hasNach
    exact first.setEinheit (fun _ => rfl) still
      (kopf_gesamt (modi ▸ summe) (kopf.begrenzt.mono (le_add_of_nonneg_right positive.le)))
  · have ofVon {p : LageEinheitPerson} (listed : p ∈ personen) := mem_aktivePersonen.mp (sub.subset listed)
    have vonId' := (einheit?_spec hasVon).2
    have nur : NurPersonen [vonId, nachId] db db₁ := by
      refine verschiebeAlle_nur stimmt.toGeformt (fun weg inside => ?_) (fun weg inside => ?_) ?_ moved
      · obtain ⟨p, listed, rfl⟩ := List.mem_map.mp inside
        exact ⟨(ofVon listed).1, (ofVon listed).2.2.1.trans vonId'⟩
      · obtain ⟨p, -, rfl⟩ := List.mem_map.mp inside
        exact ⟨List.mem_singleton_self _, einheit_bekannt stimmt.toGeformt hasNach⟩
      · rw [List.map_map]
        exact (stimmt.personen.nodup.sublist ((sub.trans (List.filter_sublist.trans List.filter_sublist)).map _))
    obtain ⟨p, listed⟩ := List.exists_mem_of_ne_nil personen jemand
    have seen := ofVon listed
    have offen := kontext_none stimmt.toGeformt seen.1 seen.2.2.2.2
    exact neuBerechnet nur (fun e member _ => stimmt.kopfzahlen e member) fun _ _ _ => Or.inl offen

theorem verbandBilden_stimmt (stimmt : db.Stimmt) {label : String} {einheitIds : List Nat} {aktive : List (Nat × String)}
    (ok : verbandBilden db lage label einheitIds aktive = .ok db') : db'.Stimmt := by
  simp only [verbandBilden, bind_eq_ok, pure_eq_ok] at ok
  obtain ⟨_, -, _, -, _, -, _, -, _, -, rfl⟩ := ok
  have added := stimmt.addEinheit (e := neuerVerband lage (db.einheiten.length + 1) (strip label)
    (db.einheiten.filter fun e => einheitIds.contains e.id)) rfl (kopf_neu ⟨rfl, rfl, rfl, rfl⟩ rfl)
  exact added.update (fun _ => rfl) fun e member _ =>
    ⟨(added.kopfzahlen e member).begrenzt, fun liste => (added.kopfzahlen e member).gezaehlt liste⟩

theorem verbandAufloesen_stimmt (stimmt : db.Stimmt) {verbandId : Nat}
    (ok : verbandAufloesen db lage verbandId = .ok db') : db'.Stimmt := by
  simp only [verbandAufloesen, bind_eq_ok, pure_eq_ok] at ok
  obtain ⟨_, -, _, -, rfl⟩ := ok
  have freed := stimmt.update (p := fun e => e.verbandId == some verbandId) (f := fun e => { e with verbandId := none })
    (fun _ => rfl) fun e member _ =>
      ⟨(stimmt.kopfzahlen e member).begrenzt, fun liste => (stimmt.kopfzahlen e member).gezaehlt liste⟩
  exact freed.update (fun _ => rfl) fun e member _ =>
    ⟨(freed.kopfzahlen e member).begrenzt, fun liste => (freed.kopfzahlen e member).gezaehlt liste⟩

theorem mengenSetzen_stimmt {grenze : Nat} {ziele : List (Nat × Int)} (stimmt : db.Stimmt)
    (neu : ∀ e ∈ db.einheiten, grenze < e.id → OhneTeilsummen e) (jeder : ∀ ziel ∈ ziele, grenze < ziel.1 ∧ 0 ≤ ziel.2) :
    (ziele.foldl (fun db ziel => db.setEinheit ziel.1 (·.mitGesamt ziel.2)) db).Stimmt := by
  induction ziele generalizing db with
  | nil => exact stimmt
  | cons ziel rest ih =>
    obtain ⟨darueber, nonneg⟩ := jeder ziel (List.mem_cons_self ..)
    refine ih ?_ (fun e' member beyond => ?_) fun z later => jeder z (List.mem_cons_of_mem _ later)
    · refine stimmt.update (fun _ => rfl) fun e member hit => ?_
      have ohne := neu e member (beq_iff_eq.mp hit ▸ darueber)
      exact kopf_gesamt ohne.summe (ohne.begrenzt nonneg)
    · obtain ⟨e, old, rfl⟩ := mem_update.mp member
      split
      · next hit =>
        have ohne := neu e old (beq_iff_eq.mp hit ▸ darueber)
        exact ⟨ohne.summe, ohne.fuehrung, ohne.agt, ohne.sanitaeter⟩
      · next missed =>
        rw [if_neg missed] at beyond
        exact neu e old beyond

section Aufteilen

variable {mutter : LageEinheit} {neu : List LageEinheit} {teile : List Teil} {db₂ : Bestand}

section

variable (stimmt : db.Stimmt) (found : db.einheit? mutter.id = some mutter)
include stimmt found

theorem mengenVerteilen_stimmt
    (summe : mutter.personalModus = .summe) (jeder : ∀ e ∈ neu, NeuerTeil lage mutter e)
    (ids : neu.map (·.id) = List.range' (db.einheiten.length + 1) teile.length)
    (passt : mutter.zahlen.Begrenzt (mutter.zahlen.gesamt - (teile.map fun teil => teil.anzahl.n).sum))
    (ok : mengenVerteilen { db with einheiten := db.einheiten ++ neu } mutter (zieleVon db teile) = .ok db₂) :
    db₂.Stimmt := by
  obtain ⟨mengen, given, -, rfl⟩ := mengenVerteilen_ok ok
  have ohne (e : LageEinheit) (member : e ∈ neu) : OhneTeilsummen e :=
    ⟨(jeder e member).modus.trans summe, (jeder e member).fuehrung, (jeder e member).agt, (jeder e member).sanitaeter⟩
  have angelegt : ({ db with einheiten := db.einheiten ++ neu } : Bestand).Stimmt := by
    refine ⟨teile_geformt stimmt.toGeformt ids, fun e member => ?_⟩
    rcases List.mem_append.mp member with old | new
    · exact kopf_of_aktive (stimmt.kopfzahlen e old) rfl
    · exact kopf_neu (ohne e new) (jeder e new).gesamt
  have summiert : mengen = (zieleVon db teile).map (·.2.anzahl.n) := by
    refine List.forall₂_eq_eq_eq ▸ (List.forall₂_map_right_iff.mpr (given.flip.imp fun n ziel is => ?_))
    rw [is.1]
    rfl
  have verteilt : mengen.sum = (teile.map fun teil => teil.anzahl.n).sum := by
    rw [summiert, ← zieleVon_teile db teile, List.map_map, zieleVon_teile]
    rfl
  rw [← verteilt] at passt
  have mutterSetzen := angelegt.setEinheit (f := (·.mitGesamt (mutter.zahlen.gesamt - mengen.sum))) (fun _ => rfl)
    (einheit?_append found neu) (kopf_gesamt summe passt)
  refine @mengenSetzen_stimmt _ db.einheiten.length _ mutterSetzen (fun e' member beyond => ?_)
    fun ziel inside => ?_
  · obtain ⟨e, was, rfl⟩ := mem_update.mp member
    have isNew : e ∈ neu := by
      rcases List.mem_append.mp was with old | new
      · have bound := stimmt.einheiten.le old
        split at beyond
        · exact absurd beyond (Nat.not_lt.mpr bound)
        · exact absurd beyond (Nat.not_lt.mpr bound)
      · exact new
    split
    · exact ⟨(ohne e isNew).summe, (ohne e isNew).fuehrung, (ohne e isNew).agt, (ohne e isNew).sanitaeter⟩
    · exact ohne e isNew
  · refine ⟨(zieleVon_neu.mp (List.of_mem_zip inside).1).1, ?_⟩
    obtain ⟨weg, -, is⟩ := forall₂_right given (List.of_mem_zip inside).2
    exact is.2

theorem personenVerteilen_stimmt
    (ids : neu.map (·.id) = List.range' (db.einheiten.length + 1) teile.length) (passt : Sichtbar s db mutter)
    (ok : personenVerteilen s { db with einheiten := db.einheiten ++ neu } lage mutter (zieleVon db teile) = .ok db₂) :
    db₂.Stimmt := by
  obtain ⟨wege, db₁, jeder, einmal, moved, rfl⟩ := personenVerteilen_ok ok
  have geformt := teile_geformt stimmt.toGeformt ids
  have nur : NurPersonen (mutter.id :: (zieleVon db teile).map (·.1)) { db with einheiten := db.einheiten ++ neu } db₁ := by
    refine verschiebeAlle_nur geformt (fun weg inside => ?_) (fun weg inside => ⟨(jeder weg inside).1, ?_⟩) einmal moved
    · have ofMutter := mem_aktivePersonen.mp (jeder weg inside).2
      exact ⟨ofMutter.1, ofMutter.2.2.1⟩
    · rw [List.length_append, neue_length ids]
      exact (zieleVon_neu.mp (jeder weg inside).1).2
  refine neuBerechnet nur (fun e member outside => ?_) fun e member inside => ?_
  · rcases List.mem_append.mp member with old | new
    · exact kopf_of_aktive (stimmt.kopfzahlen e old) rfl
    · have listed := List.mem_cons_of_mem mutter.id (zieleVon_neu.mpr (neue_id ids new))
      exact absurd listed outside
  · rcases passt with offen | leer
    · exact Or.inl offen
    · -- Nobody to move, and a new unit has no persons yet.
      obtain rfl : wege = [] := by
        refine List.eq_nil_iff_forall_not_mem.mpr fun weg inside => ?_
        have seen := (aktivePersonen_sublist mutter).subset (jeder weg inside).2
        rw [show ({ db with einheiten := db.einheiten ++ neu } : Bestand).aktive mutter = [] from leer] at seen
        cases seen
      cases moved
      refine Or.inr (List.filter_eq_nil_iff.mpr fun p isPerson picked => ?_)
      simp only [Bool.and_eq_true, beq_iff_eq] at picked
      rcases List.mem_cons.mp inside with isMutter | isNew
      · have same : e = mutter := by
          have mutterIn := (einheit?_spec found).1
          exact geformt.einheiten.inj member (List.mem_append_left _ mutterIn) isMutter
        have counted : p ∈ db.aktive mutter := by
          refine List.mem_filter.mpr ⟨isPerson, ?_⟩
          simp only [Bool.and_eq_true, beq_iff_eq]
          exact same ▸ picked
        rw [leer] at counted
        cases counted
      · have beyond := (zieleVon_neu.mp isNew).1
        have bound := stimmt.zugehoerig p isPerson
        omega

end

theorem einheitAufteilen_stimmt (stimmt : db.Stimmt)
    (passt : db.gilt einheitId fun e =>
      (e.personalModus = .summe →
        e.zahlen.Begrenzt (e.zahlen.gesamt - (teile.map fun teil => teil.anzahl.n).sum)) ∧
      (e.personalModus = .liste → Sichtbar s db e))
    (ok : einheitAufteilen s db lage einheitId teile = .ok db') : db'.Stimmt := by
  obtain ⟨mutter, neu, db₂, u, ⟨found, -⟩, ids, jeder, verteilt, umgelagert, rfl⟩ := einheitAufteilen_ok ok
  have own := passt mutter found
  rw [← (einheit?_spec found).2] at found
  refine Bestand.Stimmt.of_same ?_ (umlagern_nur umgelagert)
  unfold personalVerteilen at verteilt
  cases modus : mutter.personalModus with
  | summe =>
    rw [modus] at verteilt
    exact mengenVerteilen_stimmt stimmt found modus jeder ids (own.1 modus) verteilt
  | liste =>
    rw [modus] at verteilt
    exact personenVerteilen_stimmt stimmt found ids (own.2 modus) verteilt

end Aufteilen

end Schritte

theorem step_stimmt {db : Bestand} (stimmt : db.Stimmt) (anfrage : Sitzung × Aktion)
    (passt : anfrage.2.Passt anfrage.1 db) : (step db anfrage).Stimmt := by
  obtain ⟨s, aktion⟩ := anfrage
  unfold step
  split
  · next db' ok =>
    cases aktion with
    | addResource lage label resourceType =>
      cases ok
      exact stimmt.addEinheit rfl (kopf_neu ⟨rfl, rfl, rfl, rfl⟩ rfl)
    | personalSetzen => exact personalSetzen_stimmt stimmt ok
    | modusWechseln => exact modusWechseln_stimmt stimmt passt ok
    | personHinzufuegen => exact personHinzufuegen_stimmt stimmt passt ok
    | personEntfernen => exact personEntfernen_stimmt stimmt ok
    | verstaerken => exact verstaerken_stimmt stimmt passt ok
    | abloesen => exact abloesen_stimmt stimmt ok
    | umbuchen => exact umbuchen_stimmt stimmt passt ok
    | verbandBilden => exact verbandBilden_stimmt stimmt ok
    | verbandAufloesen => exact verbandAufloesen_stimmt stimmt ok
    | ausstattungUmbuchen => exact stimmt.of_same (ausstattungUmbuchen_nur ok)
    | einheitAufteilen => exact einheitAufteilen_stimmt stimmt passt ok
  · exact stimmt

def leer (mitglieder : List Member) : Bestand := { mitglieder }

theorem leer_stimmt (mitglieder : List Member) : (leer mitglieder).Stimmt :=
  ⟨⟨rfl, rfl, List.forall_mem_nil _, List.forall_mem_nil _⟩, List.forall_mem_nil _⟩

/-- In every state that requests meeting the condition lead to, the partial
headcounts of every unit lie between 0 and its total, and the counters of a
unit in list mode are the counts over its active persons. -/
theorem kopfzahlen_stimmen (mitglieder : List Member) (anfragen : List (Sitzung × Aktion))
    (passt : Meets step (fun db anfrage => anfrage.2.Passt anfrage.1 db) (leer mitglieder) anfragen) :
    ∀ e ∈ (run step (leer mitglieder) anfragen).einheiten,
      e.zahlen.Begrenzt e.zahlen.gesamt ∧
        (e.personalModus = .liste → e.zahlen = zaehlen ((run step (leer mitglieder) anfragen).aktive e)) := by
  have stimmt := run_induction Bestand.Stimmt (fun _ anfrage held ok => step_stimmt held anfrage ok)
    (leer_stimmt mitglieder) passt
  exact fun e member => ⟨(stimmt.kopfzahlen e member).begrenzt, (stimmt.kopfzahlen e member).gezaehlt⟩

/-- A summed unit of four, two of whom go to a second unit. -/
theorem kopfzahlen_stimmen_umbuchung :
    let lage : MajorIncident := { id := 1, orgId := 1 }
    let s : Sitzung := { kontext := none, jetzt := 0 }
    let anfragen := [(s, .addResource lage "RLF" .fahrzeug), (s, .addResource lage "TLF" .fahrzeug),
      (s, .personalSetzen lage 1 (.zahl 4) (.zahl 1) (.zahl 2) .fehlt none), (s, .umbuchen lage 1 2 (.zahl 2) [])]
    (run step (leer []) anfragen).einheiten.map (·.zahlen) = [⟨2, 1, 2, 0⟩, ⟨2, 0, 0, 0⟩] ∧
      ∀ e ∈ (run step (leer []) anfragen).einheiten, e.zahlen.Begrenzt e.zahlen.gesamt ∧
        (e.personalModus = .liste → e.zahlen = zaehlen ((run step (leer []) anfragen).aktive e)) :=
  ⟨by decide, kopfzahlen_stimmen [] _ ⟨trivial, trivial, trivial, by decide, trivial⟩⟩

/-- Three of four go and leave more bearers of breathing apparatus behind than
people; and a list that its own session cannot see is counted as empty. -/
theorem kopfzahlen_verfehlt :
    let lage : MajorIncident := { id := 1, orgId := 1 }
    let s : Sitzung := { kontext := none, jetzt := 0 }
    let t : Sitzung := { kontext := some 1, jetzt := 0 }
    (run step (leer []) [(s, .addResource lage "RLF" .fahrzeug), (s, .addResource lage "TLF" .fahrzeug),
      (s, .personalSetzen lage 1 (.zahl 4) (.zahl 1) (.zahl 4) .fehlt none),
      (s, .umbuchen lage 1 2 (.zahl 3) [])]).einheiten.map (·.zahlen) = [⟨1, 1, 4, 0⟩, ⟨3, 0, 0, 0⟩] ∧
    let db := run step (leer []) [(t, .addResource lage "RLF" .fahrzeug), (t, .modusWechseln lage 1 "liste"),
      (t, .personHinzufuegen lage 1 none (some "Vera") "fuehrung" none "frei" none)]
    db.einheiten.map (·.zahlen) = [⟨0, 0, 0, 0⟩] ∧ db.einheiten.map (fun e => (db.aktive e).length) = [1] := by
  decide +kernel

end Einsatzcockpit.Pflege
