import Einsatzcockpit.Pflege.Kopfzahlen
import Einsatzcockpit.Pflege.Erhaltung

namespace Einsatzcockpit.Pflege

open Raising Relational Transition

/-- The counters `kraefte_summen` adds up. -/
inductive Feld where
  | gesamt | fuehrung | agt | sanitaeter

def Feld.von (staerke : Staerke) : Feld → Int
  | gesamt => staerke.gesamt
  | fuehrung => staerke.fuehrung
  | agt => staerke.agt
  | sanitaeter => staerke.sanitaeter

/-- `verband_kinder` -/
def verbandKinder (db : Bestand) (verbandId : Nat) : List LageEinheit :=
  db.einheiten.filter fun e => e.verbandId == some verbandId

/-- The counters of a member, as `verband_summen` takes them: a list is counted again. -/
def kindZahlen (s : Sitzung) (db : Bestand) (kind : LageEinheit) : Staerke :=
  match kind.personalModus with
  | .summe => kind.zahlen
  | .liste => zaehlen (db.aktivePersonen s kind)

/-- `verband_summen`, the equipment apart. -/
def verbandSummen (s : Sitzung) (db : Bestand) (verband : LageEinheit) (feld : Feld) : Int :=
  ((verbandKinder db verband.id).map fun kind => feld.von (kindZahlen s db kind)).sum

/-- `kraefte_summen` -/
def kraefteSummen (s : Sitzung) (db : Bestand) (lage : MajorIncident) (feld : Feld) : Int :=
  let einheiten := db.einheiten.filter fun e => e.lageId == lage.id
  let zaehlende := einheiten.filter fun e => e.resourceType == .verband || e.verbandId.isNone
  (zaehlende.map fun e => if e.resourceType = .verband then verbandSummen s db e feld else feld.von e.zahlen).sum

structure Zuordnung where
  id : Nat
  lageId : Nat
  resourceType : Gsl.ResourceType
  verbandId : Option Nat

def LageEinheit.zuordnung (e : LageEinheit) : Zuordnung :=
  ⟨e.id, e.lageId, e.resourceType, e.verbandId⟩

/-- A member belongs to a group of its own incident, and a group to none. -/
structure Gruppiert (zeilen : List Zuordnung) : Prop where
  nummeriert : Numbered (·.id) zeilen
  frei : ∀ z ∈ zeilen, z.resourceType = .verband → z.verbandId = none
  mitglied : ∀ z ∈ zeilen, ∀ v, z.verbandId = some v →
    ∃ p ∈ zeilen, p.id = v ∧ p.resourceType = .verband ∧ p.lageId = z.lageId

def Bestand.zuordnungen (db : Bestand) : List Zuordnung := db.einheiten.map (·.zuordnung)

def beitragEinheit (s : Sitzung) (db : Bestand) (e : LageEinheit) : Staerke :=
  if e.verbandId.isNone then e.zahlen else kindZahlen s db e

section Summe

variable {db : Bestand}

theorem nummeriert_iff : Numbered (·.id) db.zuordnungen ↔ Numbered (·.id) db.einheiten := by
  rw [Numbered, Numbered, Bestand.zuordnungen, List.map_map, List.length_map]
  rfl

section

variable (gruppiert : Gruppiert db.zuordnungen)
include gruppiert

theorem Gruppiert.einheiten : Numbered (·.id) db.einheiten :=
  nummeriert_iff.mp gruppiert.nummeriert

theorem Gruppiert.verband {e : LageEinheit} (member : e ∈ db.einheiten) {v : Nat}
    (isMember : e.verbandId = some v) :
    ∃ p ∈ db.einheiten, p.id = v ∧ p.resourceType = .verband ∧ p.lageId = e.lageId := by
  obtain ⟨z, listed, id, typ, ofLage⟩ := gruppiert.mitglied e.zuordnung (List.mem_map_of_mem member) v isMember
  obtain ⟨p, inside, rfl⟩ := List.mem_map.mp listed
  exact ⟨p, inside, id, typ, ofLage⟩

theorem Gruppiert.gezaehlt {e : LageEinheit} (member : e ∈ db.einheiten)
    (lageId : Nat) : (∃ g ∈ db.einheiten.filter fun g => g.lageId == lageId && g.resourceType == .verband,
      e.verbandId = some g.id) ↔ e.lageId = lageId ∧ e.verbandId.isSome = true := by
  constructor
  · rintro ⟨g, isGroup, same⟩
    simp only [List.mem_filter, Bool.and_eq_true, beq_iff_eq] at isGroup
    obtain ⟨inside, ofLage, -⟩ := isGroup
    obtain ⟨p, isUnit, id, -, sameLage⟩ := gruppiert.verband member same
    rw [gruppiert.einheiten.inj isUnit inside id] at sameLage
    exact ⟨sameLage.symm.trans ofLage, by rw [same]; rfl⟩
  · rintro ⟨ofLage, isMember⟩
    obtain ⟨v, same⟩ := Option.isSome_iff_exists.mp isMember
    obtain ⟨p, isUnit, id, typ, sameLage⟩ := gruppiert.verband member same
    refine ⟨p, List.mem_filter.mpr ⟨isUnit, ?_⟩, by rw [same, id]⟩
    rw [Bool.and_eq_true, beq_iff_eq, beq_iff_eq]
    exact ⟨sameLage.trans ofLage, typ⟩

theorem kraefteSummen_eq (s : Sitzung) (lage : MajorIncident) (feld : Feld) :
    kraefteSummen s db lage feld =
      ((db.einheiten.filter fun e => e.lageId == lage.id && e.resourceType != .verband).map fun e =>
        feld.von (beitragEinheit s db e)).sum := by
  have groups : ((db.einheiten.filter fun g => g.lageId == lage.id && g.resourceType == .verband).map fun g =>
      verbandSummen s db g feld).sum =
      (db.einheiten.map fun e => if e.lageId = lage.id ∧ e.verbandId.isSome = true then feld.von (kindZahlen s db e) else 0).sum := by
    have nodup : ((db.einheiten.filter fun g => g.lageId == lage.id && g.resourceType == .verband).map (·.id)).Nodup :=
      gruppiert.einheiten.nodup.sublist (List.filter_sublist.map _)
    have each (g : LageEinheit) : verbandSummen s db g feld =
        (db.einheiten.map fun e => if e.verbandId = some g.id then feld.von (kindZahlen s db e) else 0).sum := by
      rw [verbandSummen, verbandKinder, sum_filter]
      simp only [beq_iff_eq]
    simp only [each]
    rw [sum_groups LageEinheit.id nodup LageEinheit.verbandId (fun e => feld.von (kindZahlen s db e)) db.einheiten]
    refine congrArg List.sum (List.map_congr_left fun e member => ?_)
    simp only [gruppiert.gezaehlt member lage.id]
  have split : kraefteSummen s db lage feld =
      ((db.einheiten.filter fun g => g.lageId == lage.id && g.resourceType == .verband).map fun g =>
        verbandSummen s db g feld).sum +
      (db.einheiten.map fun e => if e.lageId = lage.id ∧ e.resourceType ≠ .verband ∧ e.verbandId = none then
        feld.von e.zahlen else 0).sum := by
    unfold kraefteSummen
    dsimp only
    rw [List.filter_filter, sum_filter, sum_filter, ← List.sum_map_add]
    refine congrArg List.sum (List.map_congr_left fun e _ => ?_)
    by_cases ofLage : e.lageId = lage.id <;> by_cases typ : e.resourceType = .verband <;>
      by_cases isFree : e.verbandId = none <;> simp [ofLage, typ, isFree]
  rw [split, groups, ← List.sum_map_add, sum_filter]
  refine congrArg List.sum (List.map_congr_left fun e member => ?_)
  cases isMember : e.verbandId with
  | none => by_cases ofLage : e.lageId = lage.id <;> by_cases typ : e.resourceType = .verband <;>
      simp [ofLage, typ, isMember, beitragEinheit]
  | some v =>
    have noGroup : e.resourceType ≠ .verband := by
      intro typ
      have isFree := gruppiert.frei e.zuordnung (List.mem_map_of_mem member) typ
      cases isMember.symm.trans isFree
    by_cases ofLage : e.lageId = lage.id <;> simp [ofLage, noGroup, isMember, beitragEinheit]

end

end Summe

section Schritte

variable {s : Sitzung} {db db' : Bestand} {lage : MajorIncident} {einheitId : Nat}

theorem zuordnungen_setEinheit (db : Bestand) (id : Nat) {f : LageEinheit → LageEinheit}
    (keeps : ∀ e, (f e).zuordnung = e.zuordnung) : (db.setEinheit id f).zuordnungen = db.zuordnungen :=
  map_update keeps db.einheiten

theorem zuordnungen_mitGesamt (db : Bestand) (id : Nat) (gesamt : Int) :
    (db.setEinheit id (·.mitGesamt gesamt)).zuordnungen = db.zuordnungen :=
  zuordnungen_setEinheit db id fun _ => rfl

theorem zuordnungen_neuBerechnen (s : Sitzung) (ids : List Nat) (db : Bestand) :
    (ids.foldl (neuBerechnen s) db).zuordnungen = db.zuordnungen := by
  induction ids generalizing db with
  | nil => rfl
  | cons id rest ih => exact (ih _).trans (zuordnungen_setEinheit db id fun _ => rfl)

theorem zuordnungen_mengen (ziele : List (Nat × Int)) (db : Bestand) :
    (ziele.foldl (fun db ziel => db.setEinheit ziel.1 (·.mitGesamt ziel.2)) db).zuordnungen = db.zuordnungen := by
  induction ziele generalizing db with
  | nil => rfl
  | cons ziel rest ih => exact (ih _).trans (zuordnungen_mitGesamt db ziel.1 ziel.2)

theorem zuordnungen_of_einheiten (same : db'.einheiten = db.einheiten) : db'.zuordnungen = db.zuordnungen := by
  rw [Bestand.zuordnungen, same, Bestand.zuordnungen]

theorem personAnlegen_zuordnungen {daten : NeuePerson} (ok : personAnlegen s db lage einheitId daten = .ok db') :
    db'.zuordnungen = db.zuordnungen := by
  obtain ⟨p, -, rfl⟩ := personAnlegen_ok ok
  rfl

theorem personalSetzen_zuordnungen {gesamt fuehrung agt sanitaeter : Wert} {bemerkung : Option String}
    (ok : personalSetzen db lage einheitId gesamt fuehrung agt sanitaeter bemerkung = .ok db') :
    db'.zuordnungen = db.zuordnungen := by
  simp only [personalSetzen, bind_eq_ok, pure_eq_ok] at ok
  obtain ⟨_, -, _, -, _, -, _, -, _, -, _, -, _, -, _, -, rfl⟩ := ok
  split
  · rfl
  · exact zuordnungen_setEinheit db einheitId fun _ => rfl

theorem modusWechseln_zuordnungen {modus : String} (ok : modusWechseln s db lage einheitId modus = .ok db') :
    db'.zuordnungen = db.zuordnungen := by
  simp only [modusWechseln, bind_eq_ok, pure_eq_ok] at ok
  obtain ⟨_, -, modus, -, rfl⟩ := ok
  have changed := zuordnungen_setEinheit db einheitId (f := fun e => { e with personalModus := modus }) fun _ => rfl
  split
  · rfl
  · cases modus with
    | liste => exact (zuordnungen_neuBerechnen s [einheitId] _).trans changed
    | summe => exact changed

theorem personHinzufuegen_zuordnungen {memberId : Option Nat} {name : Option String} {funktion : String}
    {qualifikationen : Option Qualifikationen} {herkunft : String} {bemerkung : Option String}
    (ok : personHinzufuegen s db lage einheitId memberId name funktion qualifikationen herkunft bemerkung = .ok db') :
    db'.zuordnungen = db.zuordnungen := by
  simp only [personHinzufuegen, bind_eq_ok, pure_eq_ok] at ok
  obtain ⟨_, -, _, -, _, -, _, -, added, created, rfl⟩ := ok
  exact (zuordnungen_neuBerechnen s [einheitId] added).trans (personAnlegen_zuordnungen created)

theorem personEntfernen_zuordnungen {personId : Nat} (ok : personEntfernen s db lage einheitId personId = .ok db') :
    db'.zuordnungen = db.zuordnungen := by
  simp only [personEntfernen, bind_eq_ok, pure_eq_ok] at ok
  obtain ⟨_, -, person, -, rfl⟩ := ok
  exact zuordnungen_neuBerechnen s [einheitId] (db.setPerson person.id (·.beendet s))

theorem verstaerken_zuordnungen {anzahl : Wert} {personen : List PersonDaten}
    (ok : verstaerken s db lage einheitId anzahl personen = .ok db') : db'.zuordnungen = db.zuordnungen := by
  simp only [verstaerken, bind_eq_ok] at ok
  obtain ⟨e, -, ok⟩ := ok
  split at ok
  · simp only [bind_eq_ok, pure_eq_ok] at ok
    obtain ⟨_, -, _, -, rfl⟩ := ok
    exact zuordnungen_setEinheit db einheitId fun _ => rfl
  · simp only [bind_eq_ok, pure_eq_ok] at ok
    obtain ⟨_, -, added, created, rfl⟩ := ok
    refine (zuordnungen_neuBerechnen s [einheitId] added).trans ?_
    exact Transition.foldlM_keeps (P := fun v : Bestand => v.zuordnungen = db.zuordnungen)
      (fun v daten v' held ok => (personAnlegen_zuordnungen ok).trans held) rfl created

theorem abloesen_zuordnungen {personAltId : Nat} {memberId : Option Nat} {name funktion : Option String}
    (ok : abloesen s db lage einheitId personAltId memberId name funktion = .ok db') :
    db'.zuordnungen = db.zuordnungen := by
  simp only [abloesen, bind_eq_ok, pure_eq_ok] at ok
  obtain ⟨_, -, _, -, alt, -, added, created, rfl⟩ := ok
  have rows := personAnlegen_zuordnungen created
  exact (zuordnungen_neuBerechnen s [einheitId] added).trans rows

theorem umbuchen_zuordnungen {vonId nachId : Nat} {anzahl : Wert} {personIds : List Nat}
    (ok : umbuchen s db lage vonId nachId anzahl personIds = .ok db') : db'.zuordnungen = db.zuordnungen := by
  obtain ⟨von, nach, -, -, -, -, ⟨-, delta, -, -, -, rfl⟩ | ⟨-, personen, db₁, -, -, moved, rfl⟩⟩ := umbuchen_ok ok
  · exact (zuordnungen_mitGesamt _ nachId _).trans (zuordnungen_mitGesamt db vonId _)
  · exact (zuordnungen_neuBerechnen s [vonId, nachId] db₁).trans (zuordnungen_of_einheiten (verschiebeAlle_rest moved).1)

theorem personalVerteilen_zuordnungen {mutter : LageEinheit} {ziele : List (Nat × Teil)}
    (ok : personalVerteilen s db lage mutter ziele = .ok db') : db'.zuordnungen = db.zuordnungen := by
  unfold personalVerteilen at ok
  split at ok
  · obtain ⟨mengen, -, -, rfl⟩ := mengenVerteilen_ok ok
    exact (zuordnungen_mengen _ _).trans (zuordnungen_mitGesamt db mutter.id _)
  · obtain ⟨wege, db₁, -, -, moved, rfl⟩ := personenVerteilen_ok ok
    exact (zuordnungen_neuBerechnen s _ db₁).trans (zuordnungen_of_einheiten (verschiebeAlle_rest moved).1)

section

variable (gruppiert : Gruppiert db.zuordnungen)
include gruppiert

theorem Gruppiert.addEinheit {e : LageEinheit}
    (next : e.id = db.einheiten.length + 1) (isFree : e.verbandId = none) : Gruppiert (db.addEinheit e).zuordnungen := by
  have rows : (db.addEinheit e).zuordnungen = db.zuordnungen ++ [e.zuordnung] := List.map_append
  rw [rows]
  refine ⟨gruppiert.nummeriert.append ?_, fun z member typ => ?_, fun z member v isMember => ?_⟩
  · rw [Bestand.zuordnungen, List.length_map]
    exact next
  · rcases List.mem_append.mp member with old | new
    · exact gruppiert.frei z old typ
    · rw [List.mem_singleton.mp new]
      exact isFree
  · rcases List.mem_append.mp member with old | new
    · obtain ⟨p, inside, spec⟩ := gruppiert.mitglied z old v isMember
      exact ⟨p, List.mem_append_left _ inside, spec⟩
    · rw [List.mem_singleton.mp new] at isMember
      cases isFree.symm.trans isMember

theorem teileAnlegen_gruppiert {mutter : LageEinheit} {teile : List Teil}
    (ok : teileAnlegen lage mutter teile db = .ok db') : Gruppiert db'.zuordnungen := by
  induction teile generalizing db with
  | nil =>
    cases ok
    exact gruppiert
  | cons teil rest ih =>
    simp only [teileAnlegen, bind_eq_ok] at ok
    obtain ⟨_, -, typ, -, ok⟩ := ok
    refine ih (gruppiert.addEinheit ?_ ?_) ok <;> rfl

theorem einheitAufteilen_gruppiert {teile : List Teil}
    (ok : einheitAufteilen s db lage einheitId teile = .ok db') : Gruppiert db'.zuordnungen := by
  simp only [einheitAufteilen, bind_eq_ok, pure_eq_ok] at ok
  obtain ⟨mutter, -, _, -, _, -, db₁, angelegt, db₂, verteilt, u, umgelagert, rfl⟩ := ok
  rw [zuordnungen_of_einheiten (umlagern_nur umgelagert).einheiten, personalVerteilen_zuordnungen verteilt]
  exact teileAnlegen_gruppiert gruppiert angelegt

end

/-- Who is grouped: units of the incident that are neither groups nor members. -/
structure Vereinbar (db : Bestand) (lage : MajorIncident) (einheitIds : List Nat) : Prop where
  bekannt : ∀ id ∈ einheitIds, id ≤ db.einheiten.length
  kinder : ∀ e ∈ db.einheiten, e.id ∈ einheitIds → e.lageId = lage.id ∧ e.resourceType ≠ .verband ∧ e.verbandId = none

theorem verbandBilden_ok {label : String} {einheitIds : List Nat} {aktive : List (Nat × String)}
    (nummeriert : Numbered (·.id) db.einheiten) (ok : verbandBilden db lage label einheitIds aktive = .ok db') :
    Vereinbar db lage einheitIds ∧ ∃ verband : LageEinheit, verband.id = db.einheiten.length + 1 ∧
      verband.lageId = lage.id ∧ verband.resourceType = .verband ∧ verband.verbandId = none ∧
      db' = { db.addEinheit verband with
        einheiten := update (fun e => einheitIds.contains e.id)
          (fun e => { e with verbandId := some (db.einheiten.length + 1) }) (db.einheiten ++ [verband]) } := by
  simp only [verbandBilden, bind_eq_ok, pure_eq_ok, require_eq_ok] at ok
  obtain ⟨_, -, _, -, _, alle, _, geprueft, _, -, rfl⟩ := ok
  refine ⟨⟨fun id listed => ?_, fun e member listed => ?_⟩, _, rfl, rfl, rfl, rfl, rfl⟩
  · have nodup : ((db.einheiten.filter fun e => einheitIds.contains e.id).map (·.id)).Nodup :=
      nummeriert.nodup.sublist (List.filter_sublist.map _)
    have sub : (db.einheiten.filter fun e => einheitIds.contains e.id).map (·.id) ⊆ einheitIds.eraseDups := by
      intro id listed
      obtain ⟨e, picked, rfl⟩ := List.mem_map.mp listed
      exact List.mem_eraseDups.mpr (by simpa using (List.mem_filter.mp picked).2)
    have perm := (nodup.subperm sub).perm_of_length_le (by rw [List.length_map, alle])
    obtain ⟨e, picked, rfl⟩ := List.mem_map.mp (perm.mem_iff.mpr (List.mem_eraseDups.mpr listed))
    exact nummeriert.le (List.mem_filter.mp picked).1
  · have checked := forM_eq_ok geprueft (List.mem_filter.mpr ⟨member, List.contains_iff_mem.mpr listed⟩)
    simp only [bind_eq_ok, require_eq_ok] at checked
    obtain ⟨_, ofLage, _, -, _, typ, isFree⟩ := checked
    exact ⟨ofLage, typ, isFree⟩

theorem verbandBilden_gruppiert (gruppiert : Gruppiert db.zuordnungen) {label : String} {einheitIds : List Nat}
    {aktive : List (Nat × String)} (ok : verbandBilden db lage label einheitIds aktive = .ok db') :
    Gruppiert db'.zuordnungen := by
  obtain ⟨vereinbar, verband, next, ofLage, typ, isFree, rfl⟩ := verbandBilden_ok gruppiert.einheiten ok
  have added := gruppiert.addEinheit next isFree
  have notPicked : einheitIds.contains verband.id = false := by
    rw [← Bool.not_eq_true, List.contains_iff_mem]
    intro listed
    have bound := vereinbar.bekannt verband.id listed
    omega
  -- the new row stays as it is, and the members point to it
  have parent : ∃ p ∈ (update (fun e => einheitIds.contains e.id)
      (fun e => { e with verbandId := some (db.einheiten.length + 1) }) (db.einheiten ++ [verband])).map (·.zuordnung),
      p.id = db.einheiten.length + 1 ∧ p.resourceType = .verband ∧ p.lageId = lage.id := by
    refine ⟨verband.zuordnung, List.mem_map_of_mem (mem_update_of_false ?_ notPicked), next, typ, ofLage⟩
    exact List.mem_append_right _ (List.mem_singleton_self _)
  have old {e : LageEinheit} (member : e ∈ db.einheiten ++ [verband]) (picked : e.id ∈ einheitIds) : e ∈ db.einheiten := by
    rcases List.mem_append.mp member with old | new
    · exact old
    · rw [List.mem_singleton.mp new, ← List.contains_iff_mem, notPicked] at picked
      cases picked
  refine ⟨?_, fun z listed isGroup => ?_, fun z listed v isMember => ?_⟩
  · exact nummeriert_iff.mpr (added.einheiten.of_map (@map_update LageEinheit Nat (·.id) (fun e => einheitIds.contains e.id)
      (fun e => { e with verbandId := some (db.einheiten.length + 1) }) (fun _ => rfl) (db.einheiten ++ [verband])))
  · obtain ⟨e', member, rfl⟩ := List.mem_map.mp listed
    obtain ⟨e, inside, rfl⟩ := mem_update.mp member
    split at isGroup
    · next picked =>
      exact absurd isGroup (vereinbar.kinder e (old inside (List.contains_iff_mem.mp picked)) (List.contains_iff_mem.mp picked)).2.1
    · next missed =>
      rw [if_neg missed]
      exact added.frei e.zuordnung (List.mem_map_of_mem inside) isGroup
  · obtain ⟨e', member, rfl⟩ := List.mem_map.mp listed
    obtain ⟨e, inside, rfl⟩ := mem_update.mp member
    split at isMember
    · next picked =>
      have picked' := List.contains_iff_mem.mp picked
      cases isMember
      rw [if_pos picked]
      obtain ⟨p, isRow, id, isVerband, sameLage⟩ := parent
      exact ⟨p, isRow, id, isVerband, sameLage.trans (vereinbar.kinder e (old inside picked') picked').1.symm⟩
    · next missed =>
      rw [if_neg missed]
      obtain ⟨p, isRow, id, isVerband, sameLage⟩ := added.mitglied e.zuordnung (List.mem_map_of_mem inside) v isMember
      obtain ⟨parentRow, isUnit, rfl⟩ := List.mem_map.mp isRow
      have unpicked : einheitIds.contains parentRow.id = false := by
        rw [← Bool.not_eq_true, List.contains_iff_mem]
        intro picked
        exact (vereinbar.kinder parentRow (old isUnit picked) picked).2.1 isVerband
      exact ⟨_, List.mem_map_of_mem (mem_update_of_false isUnit unpicked), id, isVerband, sameLage⟩

def Bestand.ohneVerband (db : Bestand) (verbandId : Nat) : Bestand :=
  { db with
    einheiten := update (fun e => e.verbandId == some verbandId) (fun e => { e with verbandId := none }) db.einheiten }

theorem verbandAufloesen_ok {verbandId : Nat} (ok : verbandAufloesen db lage verbandId = .ok db') :
    (∃ verband, db.einheit? verbandId = some verband ∧ verband.lageId = lage.id ∧ verband.resourceType = .verband) ∧
      db' = (db.ohneVerband verbandId).setEinheit verbandId fun e => { e with status := .abgerueckt } := by
  simp only [verbandAufloesen, bind_eq_ok, pure_eq_ok, require_eq_ok] at ok
  obtain ⟨verband, found, _, typ, rfl⟩ := ok
  exact ⟨⟨verband, (holeEinheit_ok found).1, (holeEinheit_ok found).2, typ⟩, rfl⟩

theorem verbandAufloesen_gruppiert (gruppiert : Gruppiert db.zuordnungen) {verbandId : Nat}
    (ok : verbandAufloesen db lage verbandId = .ok db') : Gruppiert db'.zuordnungen := by
  obtain ⟨-, rfl⟩ := verbandAufloesen_ok ok
  rw [zuordnungen_setEinheit (db.ohneVerband verbandId) verbandId (f := fun e => { e with status := .abgerueckt })
    fun _ => rfl]
  have rows (e : LageEinheit) : (if e.verbandId == some verbandId then { e with verbandId := none } else e).zuordnung =
      { e.zuordnung with verbandId := if e.verbandId = some verbandId then none else e.verbandId } := by
    by_cases isMember : e.verbandId = some verbandId
    · rw [if_pos (beq_iff_eq.mpr isMember), if_pos isMember]
      rfl
    · rw [if_neg (by rwa [beq_iff_eq]), if_neg isMember]
      rfl
  refine ⟨?_, fun z listed isGroup => ?_, fun z listed v isMember => ?_⟩
  · exact nummeriert_iff.mpr (gruppiert.einheiten.of_map (@map_update LageEinheit Nat (·.id)
      (fun e => e.verbandId == some verbandId) (fun e => { e with verbandId := none }) (fun _ => rfl) db.einheiten))
  · obtain ⟨e', member, rfl⟩ := List.mem_map.mp listed
    obtain ⟨e, inside, rfl⟩ := mem_update.mp member
    rw [rows] at isGroup ⊢
    have isFree := gruppiert.frei e.zuordnung (List.mem_map_of_mem inside) isGroup
    show (if e.verbandId = some verbandId then none else e.verbandId) = none
    split
    · rfl
    · exact isFree
  · obtain ⟨e', member, rfl⟩ := List.mem_map.mp listed
    obtain ⟨e, inside, rfl⟩ := mem_update.mp member
    rw [rows] at isMember ⊢
    have kept : e.verbandId = some v := by
      by_cases freed : e.verbandId = some verbandId
      · simp [freed] at isMember
      · simpa [freed] using isMember
    obtain ⟨p, isRow, id, isVerband, sameLage⟩ := gruppiert.mitglied e.zuordnung (List.mem_map_of_mem inside) v kept
    obtain ⟨parentRow, isUnit, rfl⟩ := List.mem_map.mp isRow
    refine ⟨_, List.mem_map_of_mem (mem_update.mpr ⟨parentRow, isUnit, rfl⟩), ?_⟩
    rw [rows]
    exact ⟨id, isVerband, sameLage⟩

theorem step_gruppiert (gruppiert : Gruppiert db.zuordnungen) (anfrage : Sitzung × Aktion) :
    Gruppiert (step db anfrage).zuordnungen := by
  obtain ⟨s, aktion⟩ := anfrage
  unfold step
  split
  · next db' ok =>
    cases aktion with
    | addResource lage label resourceType =>
      cases ok
      refine gruppiert.addEinheit ?_ ?_ <;> rfl
    | personalSetzen => exact personalSetzen_zuordnungen ok ▸ gruppiert
    | modusWechseln => exact modusWechseln_zuordnungen ok ▸ gruppiert
    | personHinzufuegen => exact personHinzufuegen_zuordnungen ok ▸ gruppiert
    | personEntfernen => exact personEntfernen_zuordnungen ok ▸ gruppiert
    | verstaerken => exact verstaerken_zuordnungen ok ▸ gruppiert
    | abloesen => exact abloesen_zuordnungen ok ▸ gruppiert
    | umbuchen => exact umbuchen_zuordnungen ok ▸ gruppiert
    | verbandBilden => exact verbandBilden_gruppiert gruppiert ok
    | verbandAufloesen => exact verbandAufloesen_gruppiert gruppiert ok
    | ausstattungUmbuchen => exact zuordnungen_of_einheiten (ausstattungUmbuchen_nur ok).einheiten ▸ gruppiert
    | einheitAufteilen => exact einheitAufteilen_gruppiert gruppiert ok
  · exact gruppiert

theorem run_gruppiert (mitglieder : List Member) (anfragen : List (Sitzung × Aktion)) :
    Gruppiert (run step (leer mitglieder) anfragen).zuordnungen := by
  refine run_induction (fun db : Bestand => Gruppiert db.zuordnungen) (fun _ anfrage held _ => step_gruppiert held anfrage)
    ?_ (Meets.of_forall (fun _ _ _ => trivial) _)
  exact ⟨rfl, fun _ none => absurd none List.not_mem_nil, fun _ none => absurd none List.not_mem_nil⟩

end Schritte

/-- The stored counters of the listed units among these are what the session counts. -/
def Ausgeglichen (s : Sitzung) (db : Bestand) (kinder : List LageEinheit) (feld : Feld) : Prop :=
  ((kinder.filter (·.personalModus == .liste)).map fun e => feld.von (zaehlen (db.aktivePersonen s e))).sum =
    ((kinder.filter (·.personalModus == .liste)).map fun e => feld.von e.zahlen).sum

instance (s : Sitzung) (db : Bestand) (kinder : List LageEinheit) (feld : Feld) :
    Decidable (Ausgeglichen s db kinder feld) :=
  inferInstanceAs (Decidable (_ = _))

section Umgruppieren

variable {s : Sitzung} {db db' : Bestand} {lage : MajorIncident}

structure Umgruppiert (e e' : LageEinheit) : Prop where
  id : e'.id = e.id
  lageId : e'.lageId = e.lageId
  resourceType : e'.resourceType = e.resourceType
  personalModus : e'.personalModus = e.personalModus
  zahlen : e'.zahlen = e.zahlen

theorem Umgruppiert.refl (e : LageEinheit) : Umgruppiert e e := ⟨rfl, rfl, rfl, rfl, rfl⟩

theorem umgruppiert_verbandId (e : LageEinheit) (verbandId : Option Nat) : Umgruppiert e { e with verbandId } :=
  ⟨rfl, rfl, rfl, rfl, rfl⟩

variable {e e' : LageEinheit} {lageId : Nat}

theorem Umgruppiert.kindZahlen (same : Umgruppiert e e') (personen : db'.personen = db.personen) :
    kindZahlen s db' e' = kindZahlen s db e := by
  unfold Pflege.kindZahlen Bestand.aktivePersonen Bestand.aktive
  rw [same.personalModus, same.zahlen, same.id, same.lageId, personen]

theorem von_kindZahlen (s : Sitzung) (db : Bestand) (e : LageEinheit) (feld : Feld) :
    feld.von (kindZahlen s db e) + (if e.personalModus == .liste then feld.von e.zahlen else 0) =
      feld.von e.zahlen + if e.personalModus == .liste then feld.von (zaehlen (db.aktivePersonen s e)) else 0 := by
  unfold kindZahlen
  cases e.personalModus with
  | summe => rfl
  | liste => exact Int.add_comm _ _

/-- The total after some units have changed into members, or back: `vorher`
and `nachher` are what a unit adds. -/
theorem summe_umgruppiert {einheiten : List LageEinheit} {kind : LageEinheit → Bool} {vorher nachher : LageEinheit → Int}
    {gezaehlt gespeichert : LageEinheit → Int}
    (each : ∀ e ∈ einheiten, nachher e + (if kind e && e.personalModus == .liste then gespeichert e else 0) =
      vorher e + if kind e && e.personalModus == .liste then gezaehlt e else 0) :
    (einheiten.map nachher).sum + (((einheiten.filter kind).filter (·.personalModus == .liste)).map gespeichert).sum =
      (einheiten.map vorher).sum + (((einheiten.filter kind).filter (·.personalModus == .liste)).map gezaehlt).sum := by
  simp only [List.filter_filter, sum_filter]
  rw [← List.sum_map_add, ← List.sum_map_add]
  refine congrArg List.sum (List.map_congr_left fun e member => ?_)
  simp only [Bool.and_comm (e.personalModus == .liste)]
  exact each e member

def anteil (s : Sitzung) (db : Bestand) (lageId : Nat) (feld : Feld) (e : LageEinheit) : Int :=
  if e.lageId == lageId && e.resourceType != .verband then feld.von (beitragEinheit s db e) else 0

theorem kraefteSummen_anteil (gruppiert : Gruppiert db.zuordnungen) (s : Sitzung) (lage : MajorIncident) (feld : Feld) :
    kraefteSummen s db lage feld = (db.einheiten.map (anteil s db lage.id feld)).sum := by
  rw [kraefteSummen_eq gruppiert, sum_filter]
  rfl

section

variable (same : Umgruppiert e e')
include same

theorem anteil_fremd (other : e.lageId ≠ lageId) (feld : Feld) :
    anteil s db' lageId feld e' = anteil s db lageId feld e := by
  simp [anteil, same.lageId, other]

theorem anteil_kind (personen : db'.personen = db.personen)
    (ofLage : e.lageId = lageId) (typ : e.resourceType ≠ .verband) (isMember : e'.verbandId.isNone = false) (feld : Feld) :
    anteil s db' lageId feld e' = feld.von (kindZahlen s db e) := by
  simp [anteil, beitragEinheit, same.lageId, same.resourceType, same.kindZahlen personen, ofLage, typ, isMember]

theorem anteil_frei
    (ofLage : e.lageId = lageId) (typ : e.resourceType ≠ .verband) (isFree : e'.verbandId.isNone = true) (feld : Feld) :
    anteil s db lageId feld e' = feld.von e.zahlen := by
  simp [anteil, beitragEinheit, same.lageId, same.resourceType, same.zahlen, ofLage, typ, isFree]

theorem anteil_gleich (group : e'.verbandId = e.verbandId)
    (personen : db'.personen = db.personen) (lageId : Nat) (feld : Feld) :
    anteil s db' lageId feld e' = anteil s db lageId feld e := by
  unfold anteil beitragEinheit
  rw [same.lageId, same.resourceType, group, same.zahlen, same.kindZahlen personen]

end

theorem verbandBilden_summen (gruppiert : Gruppiert db.zuordnungen) {label : String} {einheitIds : List Nat}
    {aktive : List (Nat × String)} (ok : verbandBilden db lage label einheitIds aktive = .ok db') (s : Sitzung)
    (lage₂ : MajorIncident) (feld : Feld) : kraefteSummen s db' lage₂ feld = kraefteSummen s db lage₂ feld ↔
      (lage₂.id = lage.id → Ausgeglichen s db (db.einheiten.filter fun e => einheitIds.contains e.id) feld) := by
  rw [kraefteSummen_anteil (verbandBilden_gruppiert gruppiert ok), kraefteSummen_anteil gruppiert]
  obtain ⟨vereinbar, verband, next, ofLage, typ, isFree, rfl⟩ := verbandBilden_ok gruppiert.einheiten ok
  generalize isDb' : ({ db.addEinheit verband with
    einheiten := update (fun e => einheitIds.contains e.id)
      (fun e => { e with verbandId := some (db.einheiten.length + 1) }) (db.einheiten ++ [verband]) } : Bestand) = db'
  have personen : db'.personen = db.personen := by
    rw [← isDb']
    rfl
  let neu (e : LageEinheit) : LageEinheit :=
    if einheitIds.contains e.id then { e with verbandId := some (db.einheiten.length + 1) } else e
  have rows : db'.einheiten = (db.einheiten ++ [verband]).map neu := by
    rw [← isDb']
    rfl
  have group : anteil s db' lage₂.id feld (neu verband) = 0 := by
    have stays : (neu verband).resourceType = .verband := by
      unfold neu
      split <;> exact typ
    simp [anteil, stays]
  have after : (db'.einheiten.map (anteil s db' lage₂.id feld)).sum =
      (db.einheiten.map fun e => anteil s db' lage₂.id feld (neu e)).sum := by
    rw [rows, List.map_append, List.map_append, List.sum_append, List.map_map, List.map_singleton, List.map_singleton,
      List.sum_singleton, group, add_zero]
    rfl
  rw [after]
  by_cases own : lage₂.id = lage.id
  · have moved := @summe_umgruppiert db.einheiten (fun e => einheitIds.contains e.id) (anteil s db lage₂.id feld)
      (fun e => anteil s db' lage₂.id feld (neu e)) (fun e => feld.von (zaehlen (db.aktivePersonen s e)))
      (fun e => feld.von e.zahlen) fun e member => ?_
    · rw [own] at moved ⊢
      simp only [true_imp_iff, Ausgeglichen]
      omega
    · cases picked : einheitIds.contains e.id with
      | false =>
        have same : neu e = e := if_neg (by rw [picked]; decide)
        rw [same, anteil_gleich (Umgruppiert.refl e) rfl personen]
        rfl
      | true =>
        obtain ⟨sameLage, noGroup, free⟩ := vereinbar.kinder e member (List.contains_iff_mem.mp picked)
        have child : neu e = { e with verbandId := some (db.einheiten.length + 1) } := if_pos picked
        have ofLage₂ := sameLage.trans own.symm
        rw [Bool.true_and, child, anteil_frei (Umgruppiert.refl e) ofLage₂ noGroup (by rw [free]; rfl),
          anteil_kind (umgruppiert_verbandId e _) personen ofLage₂ noGroup rfl]
        exact von_kindZahlen s db e feld
  · have unchanged : (db.einheiten.map fun e => anteil s db' lage₂.id feld (neu e)) =
        db.einheiten.map (anteil s db lage₂.id feld) := by
      refine List.map_congr_left fun e member => ?_
      cases picked : einheitIds.contains e.id with
      | false =>
        have same : neu e = e := if_neg (by rw [picked]; decide)
        rw [same, anteil_gleich (Umgruppiert.refl e) rfl personen]
      | true =>
        obtain ⟨sameLage, -, -⟩ := vereinbar.kinder e member (List.contains_iff_mem.mp picked)
        have child : neu e = { e with verbandId := some (db.einheiten.length + 1) } := if_pos picked
        rw [child]
        exact anteil_fremd (umgruppiert_verbandId e _) (fun same => own (same.symm.trans sameLage)) feld
    exact ⟨fun _ isOwn => absurd isOwn own, fun _ => congrArg List.sum unchanged⟩

theorem verbandAufloesen_summen (gruppiert : Gruppiert db.zuordnungen) {verbandId : Nat}
    (ok : verbandAufloesen db lage verbandId = .ok db') (s : Sitzung) (lage₂ : MajorIncident) (feld : Feld) :
    kraefteSummen s db' lage₂ feld = kraefteSummen s db lage₂ feld ↔
      (lage₂.id = lage.id → Ausgeglichen s db (verbandKinder db verbandId) feld) := by
  rw [kraefteSummen_anteil (verbandAufloesen_gruppiert gruppiert ok), kraefteSummen_anteil gruppiert]
  obtain ⟨⟨verband, found, ofLage, -⟩, rfl⟩ := verbandAufloesen_ok ok
  generalize isDb' : (db.ohneVerband verbandId).setEinheit verbandId (fun e => { e with status := .abgerueckt }) = db'
  have personen : db'.personen = db.personen := by
    rw [← isDb']
    rfl
  let frei (e : LageEinheit) : LageEinheit := if e.verbandId == some verbandId then { e with verbandId := none } else e
  let neu (e : LageEinheit) : LageEinheit :=
    if (frei e).id == verbandId then { frei e with status := .abgerueckt } else frei e
  have rows : db'.einheiten = db.einheiten.map neu := by
    rw [← isDb']
    exact List.map_map
  have same (e : LageEinheit) : Umgruppiert e (neu e) := by
    have first : Umgruppiert e (frei e) := by
      unfold frei
      split
      · exact umgruppiert_verbandId e none
      · exact .refl e
    unfold neu
    split
    · exact ⟨first.id, first.lageId, first.resourceType, first.personalModus, first.zahlen⟩
    · exact first
  have group (e : LageEinheit) : (neu e).verbandId = if e.verbandId == some verbandId then none else e.verbandId := by
    have first : (frei e).verbandId = if e.verbandId == some verbandId then none else e.verbandId := by
      unfold frei
      split <;> rfl
    rw [← first]
    unfold neu
    split <;> rfl
  have members {e : LageEinheit} (member : e ∈ db.einheiten) (isMember : e.verbandId = some verbandId) :
      e.lageId = lage.id ∧ e.resourceType ≠ .verband := by
    obtain ⟨p, inside, id, -, sameLage⟩ := gruppiert.verband member isMember
    obtain ⟨isUnit, atId⟩ := einheit?_spec found
    rw [gruppiert.einheiten.inj inside isUnit (id.trans atId.symm)] at sameLage
    refine ⟨sameLage.symm.trans ofLage, fun typ => ?_⟩
    cases isMember.symm.trans (gruppiert.frei e.zuordnung (List.mem_map_of_mem member) typ)
  rw [rows, List.map_map]
  by_cases own : lage₂.id = lage.id
  · have moved := @summe_umgruppiert db.einheiten (fun e => e.verbandId == some verbandId)
      (anteil s db' lage₂.id feld ∘ neu) (anteil s db lage₂.id feld)
      (fun e => feld.von (zaehlen (db.aktivePersonen s e))) (fun e => feld.von e.zahlen) fun e member => ?_
    · rw [own] at moved ⊢
      simp only [true_imp_iff, Ausgeglichen, verbandKinder]
      omega
    · rw [Function.comp_apply]
      by_cases isMember : e.verbandId = some verbandId
      · obtain ⟨sameLage, noGroup⟩ := members member isMember
        have ofLage₂ := sameLage.trans own.symm
        rw [anteil_kind (Umgruppiert.refl e) rfl ofLage₂ noGroup (by rw [isMember]; rfl),
          anteil_frei (same e) ofLage₂ noGroup (by rw [group, isMember, beq_self_eq_true]; rfl), isMember,
          beq_self_eq_true, Bool.true_and]
        exact von_kindZahlen s db e feld
      · have noMember : (e.verbandId == some verbandId) = false := beq_eq_false_iff_ne.mpr isMember
        rw [anteil_gleich (same e) (by rw [group, noMember]; rfl) personen, noMember]
        rfl
  · have unchanged : db.einheiten.map (anteil s db' lage₂.id feld ∘ neu) = db.einheiten.map (anteil s db lage₂.id feld) := by
      refine List.map_congr_left fun e member => ?_
      rw [Function.comp_apply]
      by_cases isMember : e.verbandId = some verbandId
      · exact anteil_fremd (same e) (fun ofLage₂ => own (ofLage₂.symm.trans (members member isMember).1)) feld
      · have noMember : (e.verbandId == some verbandId) = false := beq_eq_false_iff_ne.mpr isMember
        exact anteil_gleich (same e) (by rw [group, noMember]; rfl) personen lage₂.id feld
    exact ⟨fun _ isOwn => absurd isOwn own, fun _ => congrArg List.sum unchanged⟩

end Umgruppieren

/-- In every state that requests lead to, each unit that is no group is counted
once, a group is in no group, and the totals of every incident are the same
before and after a group is formed or dissolved exactly if the counters of the
listed units it is about are what the session counts. -/
theorem kraefte_summen_fest (mitglieder : List Member) (anfragen : List (Sitzung × Aktion)) :
    let db := run step (leer mitglieder) anfragen
    (∀ s lage feld, kraefteSummen s db lage feld =
      ((db.einheiten.filter fun e => e.lageId == lage.id && e.resourceType != .verband).map fun e =>
        feld.von (beitragEinheit s db e)).sum) ∧
    (∀ e ∈ db.einheiten, e.resourceType = .verband → e.verbandId = none) ∧
    (∀ s lage label einheitIds aktive db', verbandBilden db lage label einheitIds aktive = .ok db' → ∀ lage₂ feld,
      (kraefteSummen s db' lage₂ feld = kraefteSummen s db lage₂ feld ↔
        (lage₂.id = lage.id → Ausgeglichen s db (db.einheiten.filter fun e => einheitIds.contains e.id) feld))) ∧
    ∀ s lage verbandId db', verbandAufloesen db lage verbandId = .ok db' → ∀ lage₂ feld,
      (kraefteSummen s db' lage₂ feld = kraefteSummen s db lage₂ feld ↔
        (lage₂.id = lage.id → Ausgeglichen s db (verbandKinder db verbandId) feld)) := by
  intro db
  have gruppiert : Gruppiert db.zuordnungen := run_gruppiert mitglieder anfragen
  refine ⟨fun s lage feld => kraefteSummen_eq gruppiert s lage feld, fun e member typ => ?_,
    fun s _ _ _ _ _ ok lage₂ feld => verbandBilden_summen gruppiert ok s lage₂ feld,
    fun s _ _ _ ok lage₂ feld => verbandAufloesen_summen gruppiert ok s lage₂ feld⟩
  exact gruppiert.frei e.zuordnung (List.mem_map_of_mem member) typ

/-- A listed unit with one person and a summed unit of four, of one incident. -/
def gemischt : List (Sitzung × Aktion) :=
  let lage : MajorIncident := { id := 1, orgId := 1 }
  let s : Sitzung := { kontext := none, jetzt := 0 }
  [(s, .addResource lage "RLF" .fahrzeug), (s, .addResource lage "TLF" .fahrzeug), (s, .modusWechseln lage 1 "liste"),
    (s, .personHinzufuegen lage 1 none (some "Vera") "agt" none "frei" none),
    (s, .personalSetzen lage 2 (.zahl 4) (.zahl 1) (.zahl 2) .fehlt none)]

/-- The two units as a group, in a session without a tenant. -/
theorem kraefte_summen_fest_gemischt :
    let lage : MajorIncident := { id := 1, orgId := 1 }
    let s : Sitzung := { kontext := none, jetzt := 0 }
    ∀ db', verbandBilden (run step (leer []) gemischt) lage "Zug" [1, 2] [] = .ok db' →
      kraefteSummen s db' lage .gesamt = kraefteSummen s (run step (leer []) gemischt) lage .gesamt :=
  fun _ ok => ((kraefte_summen_fest [] gemischt).2.2.1 _ _ _ _ _ _ ok _ .gesamt).mpr fun _ => by decide +kernel

/-- The session of a tenant does not see the listed person: the group counts one less than its units. -/
theorem kraefte_summen_veraendert : ¬ ∀ (anfragen : List (Sitzung × Aktion)) s lage label einheitIds aktive db',
    verbandBilden (run step (leer []) anfragen) lage label einheitIds aktive = .ok db' → ∀ feld,
      kraefteSummen s db' lage feld = kraefteSummen s (run step (leer []) anfragen) lage feld := by
  intro law
  have same := law gemischt { kontext := some 1, jetzt := 0 } { id := 1, orgId := 1 } "Zug" [1, 2] [] _ rfl .gesamt
  exact absurd same (by decide +kernel)

end Einsatzcockpit.Pflege
