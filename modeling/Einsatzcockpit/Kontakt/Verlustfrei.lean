import Einsatzcockpit.Kontakt.Rollen
import Einsatzcockpit.Kontakt.Veroeffentlicht

namespace Einsatzcockpit.Kontakt

open Relational

namespace Db

variable (db : Db) (kontaktId : Nat)

def nummernVon : List String := (db.telefone.rows.filter (·.kontaktId = kontaktId)).map (·.nummerNormalisiert)

def kategorienVon : List Nat := (db.zuordnungen.rows.filter (·.kontaktId = kontaktId)).map (·.kategorieId)

def anhaengeVon : List Nat := (db.anhaenge.rows.filter (·.kontaktId = kontaktId)).map (·.id)

def referenzenVon : List (String × Option String × String) :=
  (db.referenzen.rows.filter (·.kontaktId = kontaktId)).map Referenz.schluessel

def emailsVon : List String := (db.emails.rows.filter (·.kontaktId = kontaktId)).map (·.email)

def adressenVon : List Nat := (db.adressen.rows.filter (·.kontaktId = some kontaktId)).map (·.id)

def funktionenVon : List Nat := (db.funktionen.rows.filter (·.kontaktId = kontaktId)).map (·.id)

def einsaetzeVon : List Nat := (db.einsaetze.rows.filter (·.kontaktId = kontaktId)).map (·.incidentId)

def rollenVon : List (Nat × String) := (db.rollen.filter (·.kontaktId = kontaktId)).map Rolle.schluessel

def anRollen {κ : Type} (teil : Rolle → List κ) : List ((Nat × String) × κ) :=
  (db.rollen.filter (·.kontaktId = kontaktId)).flatMap fun r => (teil r).map fun x => (r.schluessel, x)

end Db

def Rolle.freigabeSchluessel (r : Rolle) : List (String × String) := r.alleFreigaben.map Freigabe.schluessel

def Rolle.protokollSchluessel (r : Rolle) : List (Nat × String × String) :=
  r.benachrichtigungen.map Benachrichtigung.schluessel

def Vereint {κ : Type} (vorher nachher : Nat → List κ) (quelle ziel : Nat) : Prop :=
  (∀ x, x ∈ nachher ziel ↔ x ∈ vorher ziel ∨ x ∈ vorher quelle) ∧ (nachher ziel).Nodup ∧ nachher quelle = []

/-- The merge of the two contacts has lost nothing, of any kind of record. -/
structure Verlustfrei (db db' : Db) (quelle ziel : Nat) : Prop where
  telefone : Vereint db.nummernVon db'.nummernVon quelle ziel
  kategorien : Vereint db.kategorienVon db'.kategorienVon quelle ziel
  anhaenge : Vereint db.anhaengeVon db'.anhaengeVon quelle ziel
  referenzen : Vereint db.referenzenVon db'.referenzenVon quelle ziel
  emails : Vereint db.emailsVon db'.emailsVon quelle ziel
  adressen : Vereint db.adressenVon db'.adressenVon quelle ziel
  funktionen : Vereint db.funktionenVon db'.funktionenVon quelle ziel
  einsaetze : Vereint db.einsaetzeVon db'.einsaetzeVon quelle ziel
  rollen : Vereint db.rollenVon db'.rollenVon quelle ziel
  freigaben : Vereint (db.anRollen · Rolle.freigabeSchluessel) (db'.anRollen · Rolle.freigabeSchluessel) quelle ziel
  protokoll : Vereint (db.anRollen · Rolle.protokollSchluessel) (db'.anRollen · Rolle.protokollSchluessel) quelle ziel
  /-- Two approvals of one channel and value that disagree end as inactive. -/
  widerspruch : ∀ r ∈ db.rollen, ∀ s ∈ db.rollen, r.kontaktId ∈ [quelle, ziel] → s.kontaktId ∈ [quelle, ziel] →
    r.schluessel = s.schluessel → ∀ f ∈ r.freigaben, ∀ g ∈ s.freigaben, f.schluessel = g.schluessel → f.aktiv ≠ g.aktiv →
      ∀ t ∈ db'.rollen, t.kontaktId = ziel → t.schluessel = r.schluessel →
        ∀ h ∈ t.alleFreigaben, h.schluessel = f.schluessel → h.aktiv = false

/-- What the schema and the writers of the tables keep: unique keys, the
organisation of a notification, and at the begin of a session all approvals of a
role are in the collection it loads. -/
structure Db.Stimmig (db : Db) : Prop where
  rollen : RollenStimmen db
  geladen : ∀ r ∈ db.rollen, r.zugezogen = []
  org : ∀ r ∈ db.rollen, ∀ n ∈ r.benachrichtigungen, n.orgId = r.orgId
  kategorien : (db.zuordnungen.rows.map fun z => (z.kontaktId, z.kategorieId)).Nodup
  einsaetze : (db.einsaetze.rows.map fun e => (e.kontaktId, e.incidentId)).Nodup

/-- The role that the others of its object and kind are merged into: the target's,
or else the first of the source. -/
def ersteRolle (db : Db) (quelle ziel : Nat) (k : Nat × String) : Option Rolle :=
  (db.rollen.filter (·.kontaktId = ziel) ++ quelleRollen db quelle).find? (·.schluessel = k)

def weitere (db : Db) (quelle : Nat) (r : Rolle) : List Rolle :=
  (quelleRollen db quelle).filter fun s => s.schluessel = r.schluessel && s.id ≠ r.id

structure Gefahrlos (db : Db) (quelle ziel : Nat) : Prop where
  keine : db.emailsVon quelle = [] ∧ db.adressenVon quelle = [] ∧ db.funktionenVon quelle = [] ∧ db.einsaetzeVon quelle = []
  eigene : (db.nummernVon ziel).Nodup ∧ (db.referenzenVon ziel).Nodup ∧ (db.emailsVon ziel).Nodup ∧ (db.rollenVon ziel).Nodup
  /-- A role of the source that repeats an earlier one the target lacks comes after
  another one that repeats a role. -/
  getrennt : ∀ vor k nach, db.rollenVon quelle = vor ++ k :: nach → k ∉ db.rollenVon ziel → k ∈ vor →
    ∃ a x b, vor = a ++ x :: b ∧ k ∈ a ++ [x] ∧ (x ∈ db.rollenVon ziel ∨ x ∈ a)
  /-- Approvals that the first role lacks come from one other role at most. -/
  freigaben : ∀ k r, ersteRolle db quelle ziel k = some r →
    (((weitere db quelle r).flatMap (fehlende r)).map Freigabe.schluessel).Nodup
  /-- No two roles that are merged have notified the same recipient of the same incident. -/
  protokoll : ∀ k r, ersteRolle db quelle ziel k = some r →
    ((r :: weitere db quelle r).flatMap Rolle.protokollSchluessel).Nodup

section Rollen

variable {db : Db} {quelle ziel : Nat} {k : Nat × String} {r y : Rolle}

def nachher (db : Db) (quelle ziel : Nat) (r : Rolle) : Rolle :=
  (weitere db quelle r).foldl verschmolzen (Repoint.taken (rollenRows ziel) r)

theorem ersteRolle_eq : ersteRolle db quelle ziel k = Repoint.stem (rollenRows ziel) db.rollen (quelleRollen db quelle) k := rfl

theorem mem_quelleRollen : r ∈ quelleRollen db quelle ↔ r ∈ db.rollen ∧ r.kontaktId = quelle := by
  rw [quelleRollen, List.mem_filter, decide_eq_true_eq]

theorem ersteRolle_iff (stimmen : RollenStimmen db) (eigene : (db.rollenVon ziel).Nodup) (first : ersteRolle db quelle ziel k = some r)
    (s : Rolle) : (s ∈ db.rollen ∧ (s.kontaktId = ziel ∨ s.kontaktId = quelle) ∧ s.schluessel = k) ↔
      s = r ∨ s ∈ weitere db quelle r := by
  have member := List.mem_of_find?_eq_some first
  have key : r.schluessel = k := by simpa using List.find?_some first
  have ofBoth : r ∈ db.rollen ∧ (r.kontaktId = ziel ∨ r.kontaktId = quelle) := by
    rcases List.mem_append.mp member with isZiel | isQuelle
    · exact ⟨List.mem_of_mem_filter isZiel, Or.inl (of_decide_eq_true (List.mem_filter.mp isZiel).2)⟩
    · exact ⟨(mem_quelleRollen.mp isQuelle).1, Or.inr (mem_quelleRollen.mp isQuelle).2⟩
  have inWeitere : s ∈ weitere db quelle r ↔ (s ∈ db.rollen ∧ s.kontaktId = quelle) ∧ s.schluessel = r.schluessel ∧ s.id ≠ r.id := by
    rw [weitere, List.mem_filter, mem_quelleRollen, Bool.and_eq_true, decide_eq_true_eq, decide_eq_true_eq]
  constructor
  · rintro ⟨isRow, owner, sameKey⟩
    by_cases same : s.id = r.id
    · exact Or.inl (List.inj_on_of_nodup_map stimmen.ids isRow ofBoth.1 same)
    · rcases owner with isZiel | isQuelle
      · have held : Repoint.stem (rollenRows ziel) db.rollen (quelleRollen db quelle) s.schluessel = some s :=
          Repoint.stem_held eigene isRow (decide_eq_true isZiel)
        rw [sameKey, ← ersteRolle_eq, first] at held
        exact Or.inl (Option.some.inj held).symm
      · exact Or.inr (inWeitere.mpr ⟨⟨isRow, isQuelle⟩, sameKey.trans key.symm, same⟩)
  · rintro (rfl | others)
    · exact ⟨ofBoth.1, ofBoth.2, key⟩
    · obtain ⟨⟨isRow, isQuelle⟩, sameKey, -⟩ := inWeitere.mp others
      exact ⟨isRow, Or.inr isQuelle, sameKey.trans key⟩

theorem taken_eq (ziel : Nat) (r : Rolle) : (Repoint.taken (rollenRows ziel) r).freigaben = r.freigaben ∧
    (Repoint.taken (rollenRows ziel) r).zugezogen = r.zugezogen ∧
    (Repoint.taken (rollenRows ziel) r).benachrichtigungen = r.benachrichtigungen := by
  unfold Repoint.taken
  split <;> exact ⟨rfl, rfl, rfl⟩

theorem nachher_vereinigt : Vereinigt r (weitere db quelle r) (nachher db quelle ziel r) := by
  obtain ⟨freigaben, zugezogen, protokoll⟩ := taken_eq ziel r
  have merged : Vereinigt (Repoint.taken (rollenRows ziel) r) (weitere db quelle r) (nachher db quelle ziel r) := foldl_vereinigt
  have kennt : (Repoint.taken (rollenRows ziel) r).kennt = r.kennt := congrArg (List.map _) freigaben
  have missing : fehlende (Repoint.taken (rollenRows ziel) r) = fehlende r := by
    funext s
    rw [fehlende, fehlende, kennt]
  refine ⟨merged.kennt.trans kennt, ?_, ?_, ?_⟩
  · rw [merged.zugezogen, zugezogen, missing]
  · rw [merged.benachrichtigungen, protokoll]
  · rw [← kennt, ← freigaben]
    exact merged.aktiv

theorem nachher_eq : (nachher db quelle ziel r).schluessel = r.schluessel ∧ (nachher db quelle ziel r).kontaktId = ziel := by
  obtain ⟨-, key, held⟩ := @Repoint.foldl_join _ _ (rollenRows ziel) (Repoint.taken (rollenRows ziel) r) (weitere db quelle r)
  obtain ⟨-, key', held'⟩ := @Repoint.taken_id _ _ (rollenRows ziel) r
  exact ⟨key.trans key', of_decide_eq_true (held.trans held')⟩

theorem mem_anRollen {kontaktId : Nat} {κ : Type} {teil : Rolle → List κ} {p : (Nat × String) × κ} :
    p ∈ db.anRollen kontaktId teil ↔ ∃ s ∈ db.rollen, s.kontaktId = kontaktId ∧ s.schluessel = p.1 ∧ p.2 ∈ teil s := by
  simp only [Db.anRollen, List.mem_flatMap, List.mem_filter, List.mem_map, decide_eq_true_eq]
  constructor
  · rintro ⟨s, ⟨isRow, own⟩, x, inside, rfl⟩
    exact ⟨s, isRow, own, rfl, inside⟩
  · rintro ⟨s, isRow, own, key, inside⟩
    exact ⟨s, ⟨isRow, own⟩, p.2, inside, Prod.ext key rfl⟩

theorem exists_ersteRolle (isRow : r ∈ db.rollen) (owner : r.kontaktId = ziel ∨ r.kontaktId = quelle) :
    ∃ first, ersteRolle db quelle ziel r.schluessel = some first := by
  refine Option.isSome_iff_exists.mp (List.find?_isSome.mpr ⟨r, ?_, by simp⟩)
  rcases owner with isZiel | isQuelle
  · exact List.mem_append_left _ (List.mem_filter.mpr ⟨isRow, decide_eq_true isZiel⟩)
  · exact List.mem_append_right _ (mem_quelleRollen.mpr ⟨isRow, isQuelle⟩)

theorem ersteRolle_key (first : ersteRolle db quelle ziel k = some r) : r.schluessel = k := by
  simpa using List.find?_some first

section Getrennt

variable (stimmen : RollenStimmen db) (apart : quelle ≠ ziel) (eigene : (db.rollenVon ziel).Nodup)
  (getrennt : Repoint.Apart (db.rollenVon ziel) [] (db.rollenVon quelle))

include stimmen apart eigene getrennt

theorem mem_rollenNachher : y ∈ rollenNachher db quelle ziel ∧ y.kontaktId = ziel ↔
    ∃ k r, ersteRolle db quelle ziel k = some r ∧ y = nachher db quelle ziel r := by
  have sound := rollen_sound stimmen apart
  rw [rollenNachher, Repoint.run_rows sound eigene getrennt, List.mem_filterMap]
  constructor
  · rintro ⟨⟨r, isRow, isAfter⟩, atZiel⟩
    obtain ⟨handed, isStem⟩ := Repoint.stem_of_held sound eigene isRow isAfter (decide_eq_true atZiel)
    obtain ⟨first, found, same⟩ := Option.map_eq_some_iff.mp isStem
    have firstRow := (Repoint.stem_mem sound found).1
    rw [sound.inj firstRow isRow same] at found
    refine ⟨r.schluessel, r, found, ?_⟩
    rw [Repoint.after_stem handed isStem] at isAfter
    exact (Option.some.inj isAfter).symm
  · rintro ⟨k, r, first, rfl⟩
    obtain ⟨isRow, key, handed⟩ := Repoint.stem_mem sound first
    refine ⟨⟨r, isRow, Repoint.after_stem handed ?_⟩, nachher_eq.2⟩
    rw [key]
    exact congrArg (Option.map _) first

theorem mem_rollenNachher_fremd (member : y ∈ rollenNachher db quelle ziel) (fremd : y.kontaktId ≠ ziel) :
    y ∈ db.rollen ∧ y.kontaktId ≠ quelle := by
  have sound := rollen_sound stimmen apart
  rw [rollenNachher, Repoint.run_rows sound eigene getrennt, List.mem_filterMap] at member
  obtain ⟨r, isRow, isAfter⟩ := member
  by_cases handed : (rollenRows ziel).held r = true ∨ (rollenRows ziel).id r ∈ (quelleRollen db quelle).map (rollenRows ziel).id
  · exact absurd (of_decide_eq_true (Repoint.held_after handed isAfter)) fremd
  · rw [not_or, Bool.not_eq_true] at handed
    rw [Repoint.after_open handed.1 handed.2] at isAfter
    rw [← Option.some.inj isAfter]
    exact ⟨isRow, fun own => handed.2 (List.mem_map_of_mem (mem_quelleRollen.mpr ⟨isRow, own⟩))⟩

theorem rollen_vereint {db' : Db} (rollen : db'.rollen = rollenNachher db quelle ziel) :
    Vereint db.rollenVon db'.rollenVon quelle ziel := by
  have mem : ∀ {k kontaktId} {db : Db}, k ∈ db.rollenVon kontaktId ↔
      ∃ s ∈ db.rollen, s.kontaktId = kontaktId ∧ s.schluessel = k := by
    intro k kontaktId db
    simp only [Db.rollenVon, List.mem_map, List.mem_filter, decide_eq_true_eq, and_assoc]
  refine ⟨fun k => ?_, ?_, ?_⟩
  · rw [mem, mem, mem, rollen]
    constructor
    · rintro ⟨y, isRow, atZiel, key⟩
      obtain ⟨k', r, first, rfl⟩ := (mem_rollenNachher stimmen apart eigene getrennt).mp ⟨isRow, atZiel⟩
      obtain ⟨isRow, owner, rKey⟩ := (ersteRolle_iff stimmen eigene first r).mpr (Or.inl rfl)
      rw [nachher_eq.1] at key
      exact owner.imp (fun isZiel => ⟨r, isRow, isZiel, key⟩) fun isQuelle => ⟨r, isRow, isQuelle, key⟩
    · intro before
      have owned : ∃ s ∈ db.rollen, (s.kontaktId = ziel ∨ s.kontaktId = quelle) ∧ s.schluessel = k := by
        rcases before with ⟨s, isRow, own, key⟩ | ⟨s, isRow, own, key⟩
        · exact ⟨s, isRow, Or.inl own, key⟩
        · exact ⟨s, isRow, Or.inr own, key⟩
      obtain ⟨s, isRow, owner, rfl⟩ := owned
      obtain ⟨first, isFirst⟩ := exists_ersteRolle isRow owner
      have found := (mem_rollenNachher stimmen apart eigene getrennt).mpr ⟨s.schluessel, first, isFirst, rfl⟩
      exact ⟨_, found.1, found.2, nachher_eq.1.trans (ersteRolle_key isFirst)⟩
  · have final := (Repoint.run_nodup_iff (rollen_sound stimmen apart)).mpr ⟨eigene, getrennt⟩
    rw [Db.rollenVon, rollen]
    exact final
  · rw [Db.rollenVon, rollen, List.map_eq_nil_iff, List.filter_eq_nil_iff]
    intro y member own
    have atQuelle := of_decide_eq_true own
    exact (mem_rollenNachher_fremd stimmen apart eigene getrennt member (by rw [atQuelle]; exact apart)).2 atQuelle

theorem anRollen_vereint {κ : Type} {teil : Rolle → List κ} {db' : Db} (rollen : db'.rollen = rollenNachher db quelle ziel)
    (bekommt : ∀ k r, ersteRolle db quelle ziel k = some r → ∀ x, x ∈ teil (nachher db quelle ziel r) ↔
      x ∈ teil r ∨ ∃ s ∈ weitere db quelle r, x ∈ teil s)
    (nodup : ∀ k r, ersteRolle db quelle ziel k = some r → (teil (nachher db quelle ziel r)).Nodup) :
    Vereint (db.anRollen · teil) (db'.anRollen · teil) quelle ziel := by
  have united := rollen_vereint stimmen apart eigene getrennt rollen
  refine ⟨fun p => ?_, ?_, ?_⟩
  · rw [mem_anRollen, mem_anRollen, mem_anRollen, rollen]
    constructor
    · rintro ⟨y, isRow, atZiel, key, inside⟩
      obtain ⟨k, r, first, rfl⟩ := (mem_rollenNachher stimmen apart eigene getrennt).mp ⟨isRow, atZiel⟩
      rw [nachher_eq.1, ersteRolle_key first] at key
      have origin : ∃ s, (s = r ∨ s ∈ weitere db quelle r) ∧ p.2 ∈ teil s := by
        rcases (bekommt k r first p.2).mp inside with own | ⟨s, isOther, hers⟩
        · exact ⟨r, Or.inl rfl, own⟩
        · exact ⟨s, Or.inr isOther, hers⟩
      obtain ⟨s, ofGroup, hers⟩ := origin
      obtain ⟨sRow, owner, sKey⟩ := (ersteRolle_iff stimmen eigene first s).mpr ofGroup
      exact owner.imp (fun isZiel => ⟨s, sRow, isZiel, sKey.trans key, hers⟩)
        fun isQuelle => ⟨s, sRow, isQuelle, sKey.trans key, hers⟩
    · intro before
      have owned : ∃ s ∈ db.rollen, (s.kontaktId = ziel ∨ s.kontaktId = quelle) ∧ s.schluessel = p.1 ∧ p.2 ∈ teil s := by
        rcases before with ⟨s, isRow, own, rest⟩ | ⟨s, isRow, own, rest⟩
        · exact ⟨s, isRow, Or.inl own, rest⟩
        · exact ⟨s, isRow, Or.inr own, rest⟩
      obtain ⟨s, isRow, owner, key, inside⟩ := owned
      obtain ⟨first, isFirst⟩ := exists_ersteRolle isRow owner
      have found := (mem_rollenNachher stimmen apart eigene getrennt).mpr ⟨s.schluessel, first, isFirst, rfl⟩
      refine ⟨_, found.1, found.2, (nachher_eq.1.trans (ersteRolle_key isFirst)).trans key, (bekommt _ first isFirst p.2).mpr ?_⟩
      rcases (ersteRolle_iff stimmen eigene isFirst s).mp ⟨isRow, owner, rfl⟩ with rfl | other
      · exact Or.inl inside
      · exact Or.inr ⟨s, other, inside⟩
  · have keys := united.2.1
    rw [Db.rollenVon, List.Nodup, List.pairwise_map] at keys
    show (db'.anRollen ziel teil).Nodup
    rw [Db.anRollen, List.nodup_flatMap]
    refine ⟨fun y member => ?_, keys.imp fun {y z} differ => ?_⟩
    · obtain ⟨isRow, atZiel⟩ := List.mem_filter.mp member
      rw [rollen] at isRow
      obtain ⟨k, r, first, rfl⟩ := (mem_rollenNachher stimmen apart eigene getrennt).mp ⟨isRow, of_decide_eq_true atZiel⟩
      exact (nodup k r first).map fun a b same => (Prod.mk.inj same).2
    · intro p inY inZ
      obtain ⟨a, -, rfl⟩ := List.mem_map.mp inY
      obtain ⟨b, -, same⟩ := List.mem_map.mp inZ
      exact differ (Prod.mk.inj same).1.symm
  · have none := united.2.2
    rw [Db.rollenVon, List.map_eq_nil_iff] at none
    simp only [Db.anRollen, none, List.flatMap_nil]

end Getrennt

section Schluessel

variable (geladen : ∀ s ∈ db.rollen, s.zugezogen = [])

include geladen

theorem freigabeSchluessel_eq (isRow : r ∈ db.rollen) : r.freigabeSchluessel = r.kennt := by
  rw [Rolle.freigabeSchluessel, Rolle.alleFreigaben, geladen r isRow, List.append_nil, Rolle.kennt]

omit geladen in
theorem nachher_freigaben : (nachher db quelle ziel r).freigabeSchluessel =
    r.freigabeSchluessel ++ ((weitere db quelle r).flatMap (fehlende r)).map Freigabe.schluessel :=
  nachher_vereinigt.keys

omit geladen in
theorem mem_fehlende {s : Rolle} {f : Freigabe} : f ∈ fehlende r s ↔ f ∈ s.freigaben ∧ f.schluessel ∉ r.kennt := by
  rw [fehlende, List.mem_filter, Bool.not_eq_true', List.contains_eq_mem, decide_eq_false_iff_not]

theorem nachher_bekommt (isRow : r ∈ db.rollen) (x : String × String) :
    x ∈ (nachher db quelle ziel r).freigabeSchluessel ↔
      x ∈ r.freigabeSchluessel ∨ ∃ s ∈ weitere db quelle r, x ∈ s.freigabeSchluessel := by
  have own : ∀ s ∈ weitere db quelle r, s.freigabeSchluessel = s.kennt := fun s member =>
    freigabeSchluessel_eq geladen (mem_quelleRollen.mp (List.mem_of_mem_filter member)).1
  rw [nachher_freigaben, List.mem_append, freigabeSchluessel_eq geladen isRow, List.mem_map]
  constructor
  · rintro (known | ⟨f, missing, rfl⟩)
    · exact Or.inl known
    · obtain ⟨s, isOther, inside⟩ := List.mem_flatMap.mp missing
      exact Or.inr ⟨s, isOther, own s isOther ▸ List.mem_map_of_mem (mem_fehlende.mp inside).1⟩
  · rintro (known | ⟨s, isOther, hers⟩)
    · exact Or.inl known
    · by_cases known : x ∈ r.kennt
      · exact Or.inl known
      · rw [own s isOther] at hers
        obtain ⟨f, inside, rfl⟩ := List.mem_map.mp hers
        exact Or.inr ⟨f, List.mem_flatMap.mpr ⟨s, isOther, mem_fehlende.mpr ⟨inside, known⟩⟩, rfl⟩

theorem nachher_nodup (isRow : r ∈ db.rollen) (unique : r.freigabeSchluessel.Nodup) :
    (nachher db quelle ziel r).freigabeSchluessel.Nodup ↔
      (((weitere db quelle r).flatMap (fehlende r)).map Freigabe.schluessel).Nodup := by
  rw [nachher_freigaben, List.nodup_append', and_iff_right unique, and_iff_left_iff_imp]
  intro _ x known missing
  obtain ⟨f, inside, rfl⟩ := List.mem_map.mp missing
  obtain ⟨s, -, lacks⟩ := List.mem_flatMap.mp inside
  rw [freigabeSchluessel_eq geladen isRow] at known
  exact (mem_fehlende.mp lacks).2 known

end Schluessel

theorem nachher_protokoll (org : ∀ s ∈ db.rollen, ∀ n ∈ s.benachrichtigungen, n.orgId = s.orgId) :
    (nachher db quelle ziel r).protokollSchluessel = (r :: weitere db quelle r).flatMap Rolle.protokollSchluessel := by
  have all : ∀ s ∈ weitere db quelle r, folgende s = s.benachrichtigungen := fun s member =>
    List.filter_eq_self.mpr fun n inside =>
      decide_eq_true (org s (mem_quelleRollen.mp (List.mem_of_mem_filter member)).1 n inside)
  rw [Rolle.protokollSchluessel, nachher_vereinigt.benachrichtigungen, List.flatMap_congr all, List.map_append,
    List.map_flatMap, List.flatMap_cons]
  rfl

section Stimmig

variable (stimmig : db.Stimmig) (apart : quelle ≠ ziel) (eigene : (db.rollenVon ziel).Nodup)

include stimmig eigene

theorem nachher_eindeutig (first : ersteRolle db quelle ziel k = some r) : (nachher db quelle ziel r).Eindeutig ↔
    (((weitere db quelle r).flatMap (fehlende r)).map Freigabe.schluessel).Nodup ∧
      ((r :: weitere db quelle r).flatMap Rolle.protokollSchluessel).Nodup := by
  have isRow := ((ersteRolle_iff stimmig.rollen eigene first r).mpr (Or.inl rfl)).1
  rw [← @nachher_nodup db quelle ziel r stimmig.geladen isRow (stimmig.rollen.eindeutig r isRow).1, ← nachher_protokoll stimmig.org]
  rfl

include apart in
theorem rollenNachher_eindeutig (getrennt : Repoint.Apart (db.rollenVon ziel) [] (db.rollenVon quelle)) :
    (∀ y ∈ rollenNachher db quelle ziel, y.Eindeutig) ↔
      ∀ k r, ersteRolle db quelle ziel k = some r → (nachher db quelle ziel r).Eindeutig := by
  constructor
  · intro unique k r first
    exact unique _ ((mem_rollenNachher stimmig.rollen apart eigene getrennt).mpr ⟨k, r, first, rfl⟩).1
  · intro unique y member
    by_cases atZiel : y.kontaktId = ziel
    · obtain ⟨k, r, first, rfl⟩ := (mem_rollenNachher stimmig.rollen apart eigene getrennt).mp ⟨member, atZiel⟩
      exact unique k r first
    · exact stimmig.rollen.eindeutig y (mem_rollenNachher_fremd stimmig.rollen apart eigene getrennt member atZiel).1

theorem nachher_aktiv (first : ersteRolle db quelle ziel k = some r)
    (unique : (((weitere db quelle r).flatMap (fehlende r)).map Freigabe.schluessel).Nodup) {h : Freigabe}
    (inside : h ∈ (nachher db quelle ziel r).alleFreigaben) (active : h.aktiv = true) {s : Rolle} (sRow : s ∈ db.rollen)
    (owner : s.kontaktId = ziel ∨ s.kontaktId = quelle) (key : s.schluessel = k) {f : Freigabe} (isF : f ∈ s.freigaben)
    (same : f.schluessel = h.schluessel) : f.aktiv = true := by
  have isRow := ((ersteRolle_iff stimmig.rollen eigene first r).mpr (Or.inl rfl)).1
  have group := (ersteRolle_iff stimmig.rollen eigene first s).mp ⟨sRow, owner, key⟩
  have kenntNodup : r.kennt.Nodup := freigabeSchluessel_eq stimmig.geladen isRow ▸ (stimmig.rollen.eindeutig r isRow).1
  rcases List.mem_append.mp inside with known | drawn
  · -- The role knew the approval, and it stayed active.
    obtain ⟨⟨alt, isAlt, altKey, altActive⟩, others⟩ := nachher_vereinigt.aktiv kenntNodup h known active
    rcases group with rfl | other
    · rw [List.inj_on_of_nodup_map kenntNodup isF isAlt (same.trans altKey.symm)]
      exact altActive
    · exact others s other f isF same
  · -- The role lacked the approval, so it came from one role only.
    rw [nachher_vereinigt.zugezogen, stimmig.geladen r isRow, List.nil_append] at drawn
    obtain ⟨t, -, lacks⟩ := List.mem_flatMap.mp drawn
    have unknown : f.schluessel ∉ r.kennt := same ▸ (mem_fehlende.mp lacks).2
    rcases group with rfl | other
    · exact absurd (List.mem_map_of_mem isF) unknown
    · have drawn' := List.mem_flatMap.mpr ⟨s, other, mem_fehlende.mpr ⟨isF, unknown⟩⟩
      rw [List.inj_on_of_nodup_map unique drawn' drawn same]
      exact active

end Stimmig

end Rollen

section Tabellen

variable {db db' : Db} {quelle ziel : Nat}

theorem vereint_same {κ : Type} {vorher nachher : Nat → List κ} (same : nachher = vorher) :
    Vereint vorher nachher quelle ziel ↔ vorher quelle = [] ∧ (vorher ziel).Nodup := by
  subst same
  constructor
  · exact fun united => ⟨united.2.2, united.2.1⟩
  · rintro ⟨none, nodup⟩
    exact ⟨fun x => by simp [none], nodup, none⟩

theorem vereint_absorb {ρ κ : Type} [DecidableEq κ] {id : ρ → Nat} {owner : ρ → Nat} {key : ρ → κ} {move : Nat → ρ → ρ}
    {keeps : ∀ n row, id (move n row) = id row} {table later : Keyed id} {todo : List ρ} {known : List κ}
    {vorher nachher : Nat → List κ} (absorbed : later = Keyed.absorb key move keeps table known 0 todo)
    (apart : quelle ≠ ziel) (owned : ∀ n row, owner (move n row) = ziel) (keepsKey : ∀ n row, key (move n row) = key row)
    (all : todo.Perm (table.rows.filter (owner · = quelle))) (knows : known.Perm ((table.rows.filter (owner · = ziel)).map key))
    (before : ∀ k, vorher k = (table.rows.filter (owner · = k)).map key)
    (after : ∀ k, nachher k = (later.rows.filter (owner · = k)).map key) :
    Vereint vorher nachher quelle ziel ↔ (vorher ziel).Nodup := by
  subst absorbed
  obtain ⟨union, nodup, none⟩ := Keyed.absorb_union apart owned keepsKey all knows
  rw [Vereint, before ziel, before quelle, after ziel, after quelle, nodup, none]
  exact ⟨fun united => united.2.1, fun unique => ⟨union, unique, rfl⟩⟩

variable {quelleKontakt zielKontakt : Objekt}

theorem telefone_vereint (angenommen : Angenommen db quelle ziel quelleKontakt zielKontakt)
    (telefone : db'.telefone = telefoneUmhaengen db quelleKontakt zielKontakt) :
    Vereint db.nummernVon db'.nummernVon quelle ziel ↔ (db.nummernVon ziel).Nodup := by
  obtain ⟨-, -, quelleTelefone⟩ := getKontakt_eq_some angenommen.istQuelle
  obtain ⟨-, zielId, zielTelefone⟩ := getKontakt_eq_some angenommen.istZiel
  exact vereint_absorb telefone angenommen.verschieden (fun _ _ => zielId) (fun _ _ => rfl)
    (quelleTelefone ▸ telefoneVon_perm) (zielTelefone ▸ telefoneVon_perm.map _) (fun _ => rfl) fun _ => rfl

theorem kategorien_vereint (apart : quelle ≠ ziel) (kategorien : db'.zuordnungen = kategorienUmhaengen db quelle ziel) :
    Vereint db.kategorienVon db'.kategorienVon quelle ziel ↔ (db.kategorienVon ziel).Nodup := by
  exact vereint_absorb kategorien apart (fun _ _ => rfl) (fun _ _ => rfl) (List.Perm.refl _) (List.Perm.refl _)
    (fun _ => rfl) fun _ => rfl

theorem referenzen_vereint (apart : quelle ≠ ziel) (referenzen : db'.referenzen = referenzenUmhaengen db quelle ziel) :
    Vereint db.referenzenVon db'.referenzenVon quelle ziel ↔ (db.referenzenVon ziel).Nodup := by
  exact vereint_absorb referenzen apart (fun _ _ => rfl) (fun _ _ => rfl) (List.Perm.refl _) (List.Perm.refl _)
    (fun _ => rfl) fun _ => rfl

theorem anhaenge_vereint (apart : quelle ≠ ziel) (anhaenge : db'.anhaenge = anhaengeUmhaengen db quelle ziel) :
    Vereint db.anhaengeVon db'.anhaengeVon quelle ziel := by
  have rows : db'.anhaenge.rows = db.anhaenge.rows.map fun a =>
      if a.kontaktId = quelle then { a with kontaktId := ziel } else a := congrArg Keyed.rows anhaenge
  have mem : ∀ x k, x ∈ db'.anhaengeVon k ↔ ∃ a ∈ db.anhaenge.rows,
      (if a.kontaktId = quelle then ziel else a.kontaktId) = k ∧ a.id = x := by
    intro x k
    simp only [Db.anhaengeVon, rows, List.mem_map, List.mem_filter, decide_eq_true_eq]
    constructor
    · rintro ⟨_, ⟨⟨a, isRow, rfl⟩, owner⟩, rfl⟩
      refine ⟨a, isRow, ?_, ?_⟩ <;> split_ifs at owner ⊢ <;> first | exact owner | rfl
    · rintro ⟨a, isRow, owner, rfl⟩
      refine ⟨_, ⟨⟨a, isRow, rfl⟩, ?_⟩, ?_⟩ <;> split_ifs at owner ⊢ <;> first | exact owner | rfl
  refine ⟨fun x => ?_, ?_, List.eq_nil_iff_forall_not_mem.mpr fun x => ?_⟩
  · rw [mem]
    simp only [Db.anhaengeVon, List.mem_map, List.mem_filter, decide_eq_true_eq]
    constructor
    · rintro ⟨a, isRow, owner, rfl⟩
      split_ifs at owner with isQuelle
      · exact Or.inr ⟨a, ⟨isRow, isQuelle⟩, rfl⟩
      · exact Or.inl ⟨a, ⟨isRow, owner⟩, rfl⟩
    · rintro (⟨a, ⟨isRow, owner⟩, rfl⟩ | ⟨a, ⟨isRow, owner⟩, rfl⟩)
      · exact ⟨a, isRow, by simp [owner], rfl⟩
      · exact ⟨a, isRow, if_pos owner, rfl⟩
  · exact (List.filter_sublist.map _).nodup db'.anhaenge.nodup
  · rw [mem]
    rintro ⟨a, -, owner, -⟩
    split_ifs at owner with isQuelle
    · exact apart owner.symm
    · exact isQuelle owner

theorem nodup_of_paar {ρ κ : Type} {rows : List ρ} {owner : ρ → Nat} {key : ρ → κ}
    (unique : (rows.map fun row => (owner row, key row)).Nodup) (k : Nat) : ((rows.filter (owner · = k)).map key).Nodup := by
  rw [List.Nodup, List.pairwise_map] at unique ⊢
  refine (List.pairwise_filter.mpr (unique.imp fun {a b} differ isA isB same => differ ?_))
  rw [of_decide_eq_true isA, of_decide_eq_true isB, same]

end Tabellen

section Hauptsatz

variable {db db' : Db} {quelle ziel : Nat} {feldwahl : Feld → String} {userId : Option Nat} {zeit : String}

/-- The tables of the merged contacts are written as `nachMerge` does. -/
structure Geschrieben (db db' : Db) (quelle ziel : Nat) : Prop where
  telefone : Vereint db.nummernVon db'.nummernVon quelle ziel ↔ (db.nummernVon ziel).Nodup
  kategorien : Vereint db.kategorienVon db'.kategorienVon quelle ziel ↔ (db.kategorienVon ziel).Nodup
  anhaenge : Vereint db.anhaengeVon db'.anhaengeVon quelle ziel
  referenzen : Vereint db.referenzenVon db'.referenzenVon quelle ziel ↔ (db.referenzenVon ziel).Nodup
  bleiben : db'.emails = db.emails ∧ db'.adressen = db.adressen ∧ db'.funktionen = db.funktionen ∧
    db'.einsaetze = db.einsaetze

theorem nachMerge_geschrieben {quelleKontakt zielKontakt : Objekt} {rollen : List Rolle}
    (angenommen : Angenommen db quelle ziel quelleKontakt zielKontakt) :
    Geschrieben db (nachMerge db quelleKontakt zielKontakt feldwahl userId zeit rollen) quelle ziel := by
  obtain ⟨-, quelleId, -⟩ := getKontakt_eq_some angenommen.istQuelle
  obtain ⟨-, zielId, -⟩ := getKontakt_eq_some angenommen.istZiel
  have apart := angenommen.verschieden
  refine ⟨telefone_vereint angenommen rfl, kategorien_vereint apart ?_, anhaenge_vereint apart ?_,
    referenzen_vereint apart ?_, rfl, rfl, rfl, rfl⟩
  · rw [← quelleId, ← zielId]
    rfl
  · rw [← quelleId, ← zielId]
    rfl
  · rw [← quelleId, ← zielId]
    rfl

section

variable (geschrieben : Geschrieben db db' quelle ziel)
include geschrieben

theorem Geschrieben.emails :
    Vereint db.emailsVon db'.emailsVon quelle ziel ↔ db.emailsVon quelle = [] ∧ (db.emailsVon ziel).Nodup :=
  vereint_same (by funext k; rw [Db.emailsVon, geschrieben.bleiben.1, Db.emailsVon])

theorem Geschrieben.adressen :
    Vereint db.adressenVon db'.adressenVon quelle ziel ↔ db.adressenVon quelle = [] := by
  rw [vereint_same (by funext k; rw [Db.adressenVon, geschrieben.bleiben.2.1, Db.adressenVon]), and_iff_left]
  exact (List.filter_sublist.map _).nodup db.adressen.nodup

theorem Geschrieben.funktionen :
    Vereint db.funktionenVon db'.funktionenVon quelle ziel ↔ db.funktionenVon quelle = [] := by
  rw [vereint_same (by funext k; rw [Db.funktionenVon, geschrieben.bleiben.2.2.1, Db.funktionenVon]), and_iff_left]
  exact (List.filter_sublist.map _).nodup db.funktionen.nodup

theorem Geschrieben.einsaetze (stimmig : db.Stimmig) :
    Vereint db.einsaetzeVon db'.einsaetzeVon quelle ziel ↔ db.einsaetzeVon quelle = [] := by
  rw [vereint_same (by funext k; rw [Db.einsaetzeVon, geschrieben.bleiben.2.2.2, Db.einsaetzeVon]), and_iff_left]
  exact nodup_of_paar stimmig.einsaetze ziel

end

theorem getrennt_iff : Repoint.Apart (db.rollenVon ziel) [] (db.rollenVon quelle) ↔
    ∀ vor k nach, db.rollenVon quelle = vor ++ k :: nach → k ∉ db.rollenVon ziel → k ∈ vor →
      ∃ a x b, vor = a ++ x :: b ∧ k ∈ a ++ [x] ∧ (x ∈ db.rollenVon ziel ∨ x ∈ a) := by
  rw [Repoint.apart_iff]
  simp only [List.nil_append]

theorem rollenVon_nodup_iff (stimmig : db.Stimmig) (apart : quelle ≠ ziel) (rollen : db'.rollen = rollenNachher db quelle ziel) :
    (db'.rollenVon ziel).Nodup ↔
      (db.rollenVon ziel).Nodup ∧ Repoint.Apart (db.rollenVon ziel) [] (db.rollenVon quelle) := by
  rw [Db.rollenVon, rollen]
  exact Repoint.run_nodup_iff (rollen_sound stimmig.rollen apart)

theorem Gefahrlos.verlustfrei (stimmig : db.Stimmig) (apart : quelle ≠ ziel) (gefahrlos : Gefahrlos db quelle ziel)
    (geschrieben : Geschrieben db db' quelle ziel) (rollen : db'.rollen = rollenNachher db quelle ziel) :
    Verlustfrei db db' quelle ziel := by
  obtain ⟨⟨keineEmails, keineAdressen, keineFunktionen, keineEinsaetze⟩,
    ⟨nummern, referenzen, emails, eigene⟩, getrennt, freigaben, protokoll⟩ := gefahrlos
  have getrennt := getrennt_iff.mpr getrennt
  have firstRow : ∀ {k r}, ersteRolle db quelle ziel k = some r → r ∈ db.rollen := fun first =>
    ((ersteRolle_iff stimmig.rollen eigene first _).mpr (Or.inl rfl)).1
  refine ⟨geschrieben.telefone.mpr nummern, geschrieben.kategorien.mpr (nodup_of_paar stimmig.kategorien ziel),
    geschrieben.anhaenge, geschrieben.referenzen.mpr referenzen, geschrieben.emails.mpr ⟨keineEmails, emails⟩,
    geschrieben.adressen.mpr keineAdressen, geschrieben.funktionen.mpr keineFunktionen,
    (geschrieben.einsaetze stimmig).mpr keineEinsaetze, rollen_vereint stimmig.rollen apart eigene getrennt rollen, ?_, ?_, ?_⟩
  · refine anRollen_vereint stimmig.rollen apart eigene getrennt rollen (fun k r first x => ?_) fun k r first => ?_
    · exact nachher_bekommt stimmig.geladen (firstRow first) x
    · exact (nachher_nodup stimmig.geladen (firstRow first) (stimmig.rollen.eindeutig r (firstRow first)).1).mpr (freigaben k r first)
  · refine anRollen_vereint stimmig.rollen apart eigene getrennt rollen (fun k r first x => ?_) fun k r first => ?_
    · rw [nachher_protokoll stimmig.org, List.flatMap_cons, List.mem_append, List.mem_flatMap]
    · rw [nachher_protokoll stimmig.org]
      exact protokoll k r first
  · intro r rRow s sRow rOwner sOwner sameKey f isF g isG sameFreigabe disagree t isRow atZiel key h inside hKey
    rw [rollen] at isRow
    obtain ⟨k, first, isFirst, rfl⟩ := (mem_rollenNachher stimmig.rollen apart eigene getrennt).mp ⟨isRow, atZiel⟩
    rw [nachher_eq.1, ersteRolle_key isFirst] at key
    by_contra active
    rw [Bool.not_eq_false] at active
    have owned : ∀ r : Rolle, r.kontaktId ∈ [quelle, ziel] → r.kontaktId = ziel ∨ r.kontaktId = quelle := by
      intro r member
      rw [List.mem_cons, List.mem_singleton] at member
      exact member.symm
    have fActive := nachher_aktiv stimmig eigene isFirst (freigaben k first isFirst) inside active rRow (owned r rOwner)
      key.symm isF hKey.symm
    have gActive := nachher_aktiv stimmig eigene isFirst (freigaben k first isFirst) inside active sRow (owned s sOwner)
      (sameKey.symm.trans key.symm) isG (sameFreigabe.symm.trans hKey.symm)
    exact disagree (fActive.trans gActive.symm)

/-- A merge of two contacts loses nothing just if the source has none of the
records it leaves behind and the rows of both that meet are such as one of them
can take over. -/
theorem verlustfrei_iff {quelleKontakt zielKontakt : Objekt} (stimmig : db.Stimmig)
    (angenommen : Angenommen db quelle ziel quelleKontakt zielKontakt) :
    (∃ ergebnis, mergeKontakte db quelle ziel feldwahl userId zeit = .ok ergebnis ∧ Verlustfrei db ergebnis.1 quelle ziel) ↔
      Gefahrlos db quelle ziel := by
  have apart := angenommen.verschieden
  constructor
  · rintro ⟨ergebnis, merged, verlustfrei⟩
    obtain ⟨quelleKontakt, zielKontakt, lauf, angenommen, ran, rfl⟩ := mergeKontakte_eq_ok.mp merged
    obtain ⟨rollen, unique⟩ := (rollenUmhaengen_ok stimmig.rollen apart).mp ⟨lauf, ran, rfl⟩
    have geschrieben := @nachMerge_geschrieben db quelle ziel feldwahl userId zeit _ _ lauf.rollen angenommen
    obtain ⟨eigene, getrennt⟩ := (rollenVon_nodup_iff stimmig apart rollen).mp verlustfrei.rollen.2.1
    obtain ⟨keineEmails, emails⟩ := geschrieben.emails.mp verlustfrei.emails
    rw [rollen, rollenNachher_eindeutig stimmig apart eigene getrennt] at unique
    exact {
      keine := ⟨keineEmails, geschrieben.adressen.mp verlustfrei.adressen, geschrieben.funktionen.mp verlustfrei.funktionen,
        (geschrieben.einsaetze stimmig).mp verlustfrei.einsaetze⟩
      eigene := ⟨geschrieben.telefone.mp verlustfrei.telefone, geschrieben.referenzen.mp verlustfrei.referenzen, emails, eigene⟩
      getrennt := getrennt_iff.mp getrennt
      freigaben := fun k r first => ((nachher_eindeutig stimmig eigene first).mp (unique k r first)).1
      protokoll := fun k r first => ((nachher_eindeutig stimmig eigene first).mp (unique k r first)).2 }
  · intro gefahrlos
    have eigene := gefahrlos.eigene.2.2.2
    have unique := (rollenNachher_eindeutig stimmig apart eigene (getrennt_iff.mpr gefahrlos.getrennt)).mpr fun k r first =>
      (nachher_eindeutig stimmig eigene first).mpr ⟨gefahrlos.freigaben k r first, gefahrlos.protokoll k r first⟩
    obtain ⟨lauf, ran, rollen⟩ := (rollenUmhaengen_ok stimmig.rollen apart).mpr ⟨rfl, unique⟩
    exact ⟨_, mergeKontakte_eq_ok.mpr ⟨quelleKontakt, zielKontakt, lauf, angenommen, ran, rfl⟩,
      gefahrlos.verlustfrei stimmig apart (nachMerge_geschrieben angenommen) rollen⟩

end Hauptsatz

/-- Both contacts have a role at the same object, with an approval of the same number. -/
def zweiSchluessel : Db := { zweiKontakte [(1, "05572 1"), (2, "05572 2")] with
  rollen := [
    { id := 1, orgId := 7, objektId := 5, kontaktId := 1, art := "schluessel"
      freigaben := [{ id := 1, kanal := "sms", zielWert := "055721", aktiv := true },
        { id := 2, kanal := "email", zielWert := "franz@example.org", aktiv := true }] },
    { id := 2, orgId := 7, objektId := 5, kontaktId := 2, art := "schluessel"
      freigaben := [{ id := 3, kanal := "sms", zielWert := "055721" }] }] }

theorem verlustfrei_zwei_rollen : ∃ ergebnis,
    mergeKontakte zweiSchluessel 1 2 (fun _ => "ziel") none "2026-05-04 10:00 UTC" = .ok ergebnis ∧
    Verlustfrei zweiSchluessel ergebnis.1 1 2 := by
  have stimmig : zweiSchluessel.Stimmig :=
    ⟨⟨by decide +kernel, by decide +kernel⟩, by decide +kernel, by decide +kernel, by decide +kernel, by decide +kernel⟩
  have comesThrough : (mergeKontakte zweiSchluessel 1 2 (fun _ => "ziel") none "2026-05-04 10:00 UTC").isOk = true := by
    decide +kernel
  have unique : ∀ r ∈ zweiSchluessel.rollen,
      (((weitere zweiSchluessel 1 r).flatMap (fehlende r)).map Freigabe.schluessel).Nodup ∧
        ((r :: weitere zweiSchluessel 1 r).flatMap Rolle.protokollSchluessel).Nodup := by decide +kernel
  have eigene : (zweiSchluessel.rollenVon 2).Nodup := by decide +kernel
  have isRow : ∀ {k r}, ersteRolle zweiSchluessel 1 2 k = some r → r ∈ zweiSchluessel.rollen := fun first =>
    ((ersteRolle_iff stimmig.rollen eigene first _).mpr (Or.inl rfl)).1
  cases merged : mergeKontakte zweiSchluessel 1 2 (fun _ => "ziel") none "2026-05-04 10:00 UTC" with
  | error => rw [merged] at comesThrough; cases comesThrough
  | ok ergebnis =>
    obtain ⟨quelle, ziel, -, angenommen, -⟩ := mergeKontakte_eq_ok.mp merged
    rw [← merged]
    exact (verlustfrei_iff stimmig angenommen).mpr
      ⟨by decide +kernel, by decide +kernel, getrennt_iff.mp (by decide +kernel), fun k r first => (unique r (isRow first)).1,
        fun k r first => (unique r (isRow first)).2⟩

/-- The address of the archived contact stays with it. -/
theorem verlustfrei_verfehlt : ∃ (db : Db) (ergebnis : Db × List String), db.Stimmig ∧
    mergeKontakte db 1 2 (fun _ => "ziel") none "2026-05-04 10:00 UTC" = .ok ergebnis ∧ ¬ Verlustfrei db ergebnis.1 1 2 := by
  generalize isDb : { zweiKontakte [] with
    emails := Keyed.empty.insert (fun id => { id, kontaktId := 1, email := "franz@example.org" }) fun _ => rfl } = db
  have stimmig : db.Stimmig := by
    subst isDb
    exact ⟨⟨by decide +kernel, by decide +kernel⟩, by decide +kernel, by decide +kernel, by decide +kernel, by decide +kernel⟩
  have comesThrough : (mergeKontakte db 1 2 (fun _ => "ziel") none "2026-05-04 10:00 UTC").isOk = true := by
    subst isDb
    decide +kernel
  have address : db.emailsVon 1 ≠ [] := by
    subst isDb
    decide +kernel
  cases merged : mergeKontakte db 1 2 (fun _ => "ziel") none "2026-05-04 10:00 UTC" with
  | error => rw [merged] at comesThrough; cases comesThrough
  | ok ergebnis =>
    refine ⟨db, ergebnis, stimmig, merged, fun verlustfrei => ?_⟩
    obtain ⟨quelle, ziel, lauf, angenommen, -, rfl⟩ := mergeKontakte_eq_ok.mp merged
    exact address ((nachMerge_geschrieben angenommen).emails.mp verlustfrei.emails).1

end Einsatzcockpit.Kontakt
