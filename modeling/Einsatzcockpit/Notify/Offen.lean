import Einsatzcockpit.Notify.Sync

namespace Einsatzcockpit.Notify

/-- What every scan keeps: the keys of both tables, one open warning a troop and
kind, no pending delivery but of an open warning, one delivery a recipient, and
no kind that its column cannot hold. -/
structure Db.Sound (db : Db) : Prop where
  warnungen : Relational.Numbered BreathingWarnung.id db.warnungen
  zustellungen : Relational.Numbered BreathingZustellung.id db.zustellungen
  einzeln : ((db.warnungen.filter (·.erledigtAt.isNone)).map fun warnung => (warnung.troopId, warnung.kind)).Nodup
  ruhig : ∀ zeile ∈ db.zustellungen, zeile.status = .pending →
    ∃ warnung ∈ db.warnungen, warnung.id = zeile.warnungId ∧ warnung.erledigtAt = none
  eindeutig : (db.zustellungen.map BreathingZustellung.key).Nodup
  bekannt : ∀ zeile ∈ db.zustellungen, zeile.warnungId ≤ db.warnungen.length
  kurz : ∀ warnung ∈ db.warnungen, warnung.kind.text.length ≤ kindBreite

theorem Db.sound_empty : ({} : Db).Sound where
  warnungen := .nil
  zustellungen := .nil
  einzeln := List.nodup_nil
  ruhig := fun _ none => absurd none List.not_mem_nil
  eindeutig := List.nodup_nil
  bekannt := fun _ none => absurd none List.not_mem_nil
  kurz := fun _ none => absurd none List.not_mem_nil

variable {db : Db} {now : Zeit} {troopId : Nat}

section Schliesse

variable (id : Nat)

@[simp] theorem schliesse_length : (schliesse now id db).warnungen.length = db.warnungen.length :=
  Relational.length_update _ _ _

theorem schliesse_offene : (schliesse now id db).offene troopId = (db.offene troopId).filter (·.id != id) := by
  rw [Db.offene, schliesse, Relational.filter_update_gone, Db.offene, List.filter_filter]
  · refine List.filter_congr fun warnung _ => ?_
    rw [Bool.and_comm]
    rfl
  · intro warnung _
    simp [BreathingWarnung.erledigt]

theorem Db.Sound.schliesse (sound : db.Sound) : (schliesse now id db).Sound where
  warnungen := by
    have keeps : ∀ warnung : BreathingWarnung, (warnung.erledigt now).id = warnung.id := fun _ => rfl
    exact sound.warnungen.of_map (Relational.map_update keeps _)
  zustellungen := by
    have keeps : ∀ zeile : BreathingZustellung, (zeile.unterdrueckt "erledigt").id = zeile.id := fun _ => rfl
    exact sound.zustellungen.of_map (Relational.map_update keeps _)
  einzeln := by
    have gone : ∀ warnung : BreathingWarnung, (warnung.id == id) = true →
        (warnung.erledigt now).erledigtAt.isNone = false := fun _ _ => rfl
    have still : (Notify.schliesse now id db).warnungen.filter (·.erledigtAt.isNone) =
        (db.warnungen.filter (·.erledigtAt.isNone)).filter (·.id != id) := by
      rw [Notify.schliesse, Relational.filter_update_gone _ _ _ _ gone, List.filter_filter]
      exact List.filter_congr fun _ _ => Bool.and_comm ..
    rw [still]
    exact sound.einzeln.sublist (List.filter_sublist.map _)
  ruhig := by
    intro zeile member pending
    obtain ⟨old, inside, rfl⟩ := Relational.mem_update.mp member
    split at pending
    · cases pending
    · next other =>
      obtain ⟨warnung, open', same, offen⟩ := sound.ruhig old inside pending
      rw [if_neg other]
      refine ⟨warnung, Relational.mem_update_of_false open' ?_, same, offen⟩
      have different : old.warnungId ≠ id := by
        intro equal
        exact other (by simp [equal, pending])
      rw [beq_eq_false_iff_ne, same]
      exact different
  eindeutig := by
    have keeps : ∀ zeile : BreathingZustellung, (zeile.unterdrueckt "erledigt").key = zeile.key := fun _ => rfl
    rw [Notify.schliesse, Relational.map_update keeps]
    exact sound.eindeutig
  bekannt := by
    intro zeile member
    obtain ⟨old, inside, rfl⟩ := Relational.mem_update.mp member
    rw [schliesse_length]
    split
    · exact sound.bekannt old inside
    · exact sound.bekannt old inside
  kurz := by
    intro warnung member
    obtain ⟨old, inside, rfl⟩ := Relational.mem_update.mp member
    split
    · exact sound.kurz old inside
    · exact sound.kurz old inside

end Schliesse

section SchliesseAlle

variable (warnungen : List BreathingWarnung)

theorem Db.Sound.schliesseAlle (sound : db.Sound) : (schliesseAlle now warnungen db).Sound := by
  unfold Notify.schliesseAlle
  induction warnungen generalizing db with
  | nil => exact sound
  | cons warnung rest ih => exact ih (sound.schliesse warnung.id)

theorem schliesseAlle_offene :
    (schliesseAlle now warnungen db).offene troopId =
      (db.offene troopId).filter fun offen => decide (offen.id ∉ warnungen.map (·.id)) := by
  unfold schliesseAlle
  induction warnungen generalizing db with
  | nil => simp
  | cons warnung rest ih =>
    rw [List.foldl_cons, ih, schliesse_offene, List.filter_filter]
    refine List.filter_congr fun offen _ => ?_
    by_cases same : offen.id = warnung.id <;> simp [same]

theorem schliesse_filter (sound : db.Sound) (p : BreathingWarnung → Bool) :
    (schliesseAlle now ((db.offene troopId).filter p) db).offene troopId =
      (db.offene troopId).filter fun offen => !p offen := by
  rw [schliesseAlle_offene]
  refine List.filter_congr fun offen member => ?_
  have inside : offen ∈ db.warnungen := (List.mem_filter.mp member).1
  cases hit : p offen with
  | true =>
    have closed : offen.id ∈ ((db.offene troopId).filter p).map (·.id) :=
      List.mem_map_of_mem (List.mem_filter.mpr ⟨member, hit⟩)
    rw [decide_eq_false (not_not.mpr closed)]
    rfl
  | false =>
    have open' : offen.id ∉ ((db.offene troopId).filter p).map (·.id) := by
      intro closed
      obtain ⟨other, selected, same⟩ := List.mem_map.mp closed
      obtain ⟨isOpen, chosen⟩ := List.mem_filter.mp selected
      rw [sound.warnungen.inj (List.mem_filter.mp isOpen).1 inside same, hit] at chosen
      cases chosen
    rw [decide_eq_true open']
    rfl

end SchliesseAlle

section Eroeffne

variable {stamm : Stammdaten} {incident : Incident} {troop : Breathing.BreathingTroop} {grace : Int} {sms : Bool}
  {neue : List BreathingWarnung} {kind : Kind}

def neueWarnung (incident : Incident) (troop : Breathing.BreathingTroop) (now : Zeit) (db : Db) (kind : Kind) :
    BreathingWarnung :=
  { id := db.warnungen.length + 1, incidentId := incident.id, troopId := troop.id, zyklusStart := troop.entryAt
    kind := kind, ausgeloestAt := now }

def eroeffnet (stamm : Stammdaten) (incident : Incident) (troop : Breathing.BreathingTroop) (now : Zeit) (grace : Int)
    (sms : Bool) (db : Db) (kind : Kind) : Db where
  warnungen := db.warnungen ++ [neueWarnung incident troop now db kind]
  zustellungen := db.zustellungen ++
    plane stamm incident troop kind now grace sms (db.zustellungen.length + 1) (db.warnungen.length + 1)

theorem eroeffnet_keys (sound : db.Sound) :
    ((eroeffnet stamm incident troop now grace sms db kind).zustellungen.map BreathingZustellung.key).Nodup := by
  have geplant : Geplant (db.zustellungen.length + 1) (db.warnungen.length + 1)
      (plane stamm incident troop kind now grace sms (db.zustellungen.length + 1) (db.warnungen.length + 1)) :=
    plane_geplant stamm troop kind
  rw [eroeffnet, List.map_append]
  refine List.nodup_append.mpr ⟨sound.eindeutig, geplant.keys, ?_⟩
  intro key old key' new same
  obtain ⟨zeile, member, rfl⟩ := List.mem_map.mp old
  obtain ⟨zeile', member', rfl⟩ := List.mem_map.mp new
  have bound := sound.bekannt zeile member
  have fresh := geplant.warnung zeile' member'
  have equal : zeile.warnungId = zeile'.warnungId := congrArg Prod.fst same
  omega

theorem eroeffne_ok (sound : db.Sound) (short : kind.text.length ≤ kindBreite) :
    eroeffne stamm incident troop now grace sms (neue, db) kind =
      .ok (neue ++ [neueWarnung incident troop now db kind], eroeffnet stamm incident troop now grace sms db kind) := by
  have keys : ((eroeffnet stamm incident troop now grace sms db kind).zustellungen.map BreathingZustellung.key).Nodup :=
    eroeffnet_keys sound
  simp only [eroeffne, if_neg (Nat.not_lt.mpr short)]
  exact if_pos keys

theorem eroeffnet_offene :
    (eroeffnet stamm incident troop now grace sms db kind).offene troopId =
      db.offene troopId ++ if troop.id = troopId then [neueWarnung incident troop now db kind] else [] := by
  rw [Db.offene, eroeffnet, List.filter_append, Db.offene]
  congr 1
  by_cases same : troop.id = troopId <;> simp [neueWarnung, same]

theorem Db.Sound.eroeffnet (sound : db.Sound) (short : kind.text.length ≤ kindBreite)
    (fresh : kind ∉ db.arten troop.id) :
    (eroeffnet stamm incident troop now grace sms db kind).Sound where
  warnungen := sound.warnungen.append rfl
  zustellungen := sound.zustellungen.append_all (plane_geplant stamm troop kind).ids
  einzeln := by
    rw [Notify.eroeffnet, List.filter_append, List.map_append]
    refine List.nodup_append.mpr ⟨sound.einzeln, List.nodup_singleton _, ?_⟩
    intro key old key' new same
    obtain ⟨offen, member, rfl⟩ := List.mem_map.mp old
    rw [List.mem_singleton.mp new] at same
    obtain ⟨inside, isOpen⟩ := List.mem_filter.mp member
    have ofTroop : offen.troopId = troop.id := congrArg Prod.fst same
    have ofKind : offen.kind = kind := congrArg Prod.snd same
    refine fresh (List.mem_map.mpr ⟨offen, List.mem_filter.mpr ⟨inside, ?_⟩, ofKind⟩)
    simp [ofTroop, isOpen]
  ruhig := by
    intro zeile member pending
    rcases List.mem_append.mp member with old | new
    · obtain ⟨warnung, inside, same, offen⟩ := sound.ruhig zeile old pending
      exact ⟨warnung, List.mem_append_left _ inside, same, offen⟩
    · exact ⟨_, List.mem_append_right _ (List.mem_singleton_self _), ((plane_geplant stamm troop kind).warnung zeile new).symm, rfl⟩
  eindeutig := eroeffnet_keys sound
  bekannt := by
    intro zeile member
    rw [Notify.eroeffnet, List.length_append, List.length_singleton]
    rcases List.mem_append.mp member with old | new
    · exact (sound.bekannt zeile old).trans (Nat.le_add_right _ 1)
    · exact ((plane_geplant stamm troop kind).warnung zeile new).le
  kurz := by
    intro warnung member
    rcases List.mem_append.mp member with old | new
    · exact sound.kurz warnung old
    · rw [List.mem_singleton.mp new]
      exact short

theorem eroeffnet_arten :
    (Notify.eroeffnet stamm incident troop now grace sms db kind).arten troop.id = db.arten troop.id ++ [kind] := by
  rw [Db.arten, eroeffnet_offene, if_pos rfl, List.map_append]
  rfl

theorem eroeffnet_fresh {rest : List Kind} (fresh : ∀ other ∈ kind :: rest, other ∉ db.arten troop.id)
    (unused : kind ∉ rest) :
    ∀ other ∈ rest, other ∉ (Notify.eroeffnet stamm incident troop now grace sms db kind).arten troop.id := by
  intro other member open'
  rw [eroeffnet_arten] at open'
  rcases List.mem_append.mp open' with old | new
  · exact fresh other (List.mem_cons_of_mem _ member) old
  · exact unused (List.mem_singleton.mp new ▸ member)

theorem eroeffne_alle {kinds : List Kind} (sound : db.Sound) (short : ∀ kind ∈ kinds, kind.text.length ≤ kindBreite)
    (nodup : kinds.Nodup) (fresh : ∀ kind ∈ kinds, kind ∉ db.arten troop.id) :
    ∃ neue' db', kinds.foldlM (eroeffne stamm incident troop now grace sms) (neue, db) = .ok (neue', db') ∧ db'.Sound ∧
      (∀ kind, kind ∈ db'.arten troop.id ↔ kind ∈ db.arten troop.id ∨ kind ∈ kinds) ∧
      ∀ offen ∈ db'.offene troop.id, offen ∈ db.offene troop.id ∨ offen.zyklusStart = troop.entryAt := by
  induction kinds generalizing neue db with
  | nil => exact ⟨neue, db, rfl, sound, fun kind => by simp, fun offen member => .inl member⟩
  | cons kind rest ih =>
    rw [List.nodup_cons] at nodup
    have kindShort := short kind (List.mem_cons_self ..)
    have kindFresh := fresh kind (List.mem_cons_self ..)
    obtain ⟨neue', db', run, sound', kinds', zyklus⟩ :=
      @ih _ (neue ++ [neueWarnung incident troop now db kind]) (sound.eroeffnet kindShort kindFresh)
        (fun other member => short other (List.mem_cons_of_mem _ member)) nodup.2 (eroeffnet_fresh fresh nodup.1)
    refine ⟨neue', db', ?_, sound', ?_, ?_⟩
    · rw [List.foldlM_cons, eroeffne_ok sound kindShort]
      exact run
    · intro other
      rw [kinds', eroeffnet_arten, List.mem_append, List.mem_singleton, List.mem_cons, or_assoc]
    · intro offen member
      rcases zyklus offen member with before | current
      · rw [eroeffnet_offene, if_pos rfl] at before
        rcases List.mem_append.mp before with old | new
        · exact .inl old
        · rw [List.mem_singleton.mp new]
          exact .inr rfl
      · exact .inr current

theorem eroeffne_zu_lang {kinds : List Kind} (sound : db.Sound) (nodup : kinds.Nodup)
    (fresh : ∀ kind ∈ kinds, kind ∉ db.arten troop.id) (long : ∃ kind ∈ kinds, kindBreite < kind.text.length) :
    kinds.foldlM (eroeffne stamm incident troop now grace sms) (neue, db) = .error (.dataTooLong "kind") := by
  induction kinds generalizing neue db with
  | nil =>
    obtain ⟨kind, member, -⟩ := long
    cases member
  | cons kind rest ih =>
    rw [List.foldlM_cons]
    rw [List.nodup_cons] at nodup
    by_cases short : kind.text.length ≤ kindBreite
    · rw [eroeffne_ok sound short]
      have kindFresh := fresh kind (List.mem_cons_self ..)
      obtain ⟨other, member, isLong⟩ := long
      rcases List.mem_cons.mp member with rfl | inside
      · exact absurd short (Nat.not_le.mpr isLong)
      · exact ih (sound.eroeffnet short kindFresh) nodup.2 (eroeffnet_fresh fresh nodup.1) ⟨other, inside, isLong⟩
    · simp only [eroeffne, if_pos (Nat.not_le.mp short)]
      rfl

end Eroeffne

section Sync

variable {stamm : Stammdaten} {incident : Incident} {troop : Breathing.BreathingTroop} {aktiveKinds : List String}

/-- What a scan is for: the open kinds of the troop are the active ones, and all
of its open warnings belong to the current cycle. -/
def Abgeglichen (troop : Breathing.BreathingTroop) (aktiveKinds : List String) (db : Db) : Prop :=
  (∀ kind, kind ∈ db.arten troop.id ↔ kind.text ∈ aktiveKinds) ∧
    ∀ offen ∈ db.offene troop.id, offen.zyklusStart = troop.entryAt

/-- The database after the first loop of `sync_warnungen`. -/
def bereinigt (troop : Breathing.BreathingTroop) (aktiveKinds : List String) (now : Zeit) (db : Db) : Db :=
  schliesseAlle now ((db.offene troop.id).filter (veraltet troop aktiveKinds)) db

theorem bereinigt_offene (sound : db.Sound) :
    (bereinigt troop aktiveKinds now db).offene troop.id =
      (db.offene troop.id).filter fun warnung => !veraltet troop aktiveKinds warnung :=
  schliesse_filter sound _

theorem fehlende_nodup (vorhanden : List Kind) : (fehlende aktiveKinds vorhanden).Nodup := by
  have all : Kind.all.Nodup := by decide
  exact (List.perm_insertionSort ..).nodup_iff.mpr (all.sublist List.filter_sublist)

theorem mem_fehlende {vorhanden : List Kind} {kind : Kind} :
    kind ∈ fehlende aktiveKinds vorhanden ↔ kind.text ∈ aktiveKinds ∧ kind ∉ vorhanden := by
  rw [fehlende, (List.perm_insertionSort ..).mem_iff, List.mem_filter, Bool.and_eq_true, decide_eq_true_iff,
    decide_eq_true_iff]
  exact and_iff_right (Kind.mem_all kind)

theorem sync_eq (own : troop.incidentId = incident.id) (known : ∀ text ∈ aktiveKinds, (Kind.ofText? text).isSome) :
    syncWarnungen stamm incident troop aktiveKinds now db =
      (fehlende aktiveKinds (((db.offene troop.id).filter fun warnung => !veraltet troop aktiveKinds warnung).map (·.kind))).foldlM
        (eroeffne stamm incident troop now (graceSeconds stamm incident) (smsAn stamm incident))
        ([], bereinigt troop aktiveKinds now db) := by
  have none : aktiveKinds.filter (fun text => (Kind.ofText? text).isNone) = [] := by
    refine List.filter_eq_nil_iff.mpr fun text member => ?_
    rw [Option.isNone_iff_eq_none, ← Option.not_isSome_iff_eq_none, not_not]
    exact known text member
  simp only [syncWarnungen, none]
  rw [if_neg (not_not.mpr own), if_neg (not_not.mpr rfl)]
  rfl

theorem fehlende_fresh (sound : db.Sound) :
    ∀ kind ∈ fehlende aktiveKinds (((db.offene troop.id).filter fun warnung =>
      !veraltet troop aktiveKinds warnung).map (·.kind)), kind ∉ (bereinigt troop aktiveKinds now db).arten troop.id := by
  intro kind member
  rw [Db.arten, bereinigt_offene sound]
  exact (mem_fehlende.mp member).2

section

variable (sound : db.Sound) (own : troop.incidentId = incident.id) (known : ∀ text ∈ aktiveKinds, (Kind.ofText? text).isSome)
include sound own known

theorem sync_abgeglichen
    (short : ∀ kind : Kind, kind.text ∈ aktiveKinds → kind.text.length ≤ kindBreite) :
    ∃ neue db', syncWarnungen stamm incident troop aktiveKinds now db = .ok (neue, db') ∧ db'.Sound ∧
      Abgeglichen troop aktiveKinds db' := by
  obtain ⟨neue, db', run, sound', kinds, zyklus⟩ :=
    @eroeffne_alle (bereinigt troop aktiveKinds now db) now stamm incident troop (graceSeconds stamm incident)
      (smsAn stamm incident) [] _ (sound.schliesseAlle _) (fun kind member => short kind (mem_fehlende.mp member).1)
      (fehlende_nodup _) (fehlende_fresh sound)
  refine ⟨neue, db', (sync_eq own known).trans run, sound', ?_, ?_⟩
  · intro kind
    rw [kinds, mem_fehlende, Db.arten, bereinigt_offene sound]
    constructor
    · rintro (open' | ⟨active, -⟩)
      · obtain ⟨offen, member, rfl⟩ := List.mem_map.mp open'
        have current := (List.mem_filter.mp member).2
        simp only [veraltet, Bool.not_eq_true', Bool.or_eq_false_iff, decide_eq_false_iff_not, not_not] at current
        exact current.1
      · exact active
    · intro active
      by_cases present : kind ∈ ((db.offene troop.id).filter fun warnung => !veraltet troop aktiveKinds warnung).map (·.kind)
      · exact .inl present
      · exact .inr ⟨active, present⟩
  · intro offen member
    rcases zyklus offen member with before | current
    · rw [bereinigt_offene sound] at before
      have fresh := (List.mem_filter.mp before).2
      simp only [veraltet, Bool.not_eq_true', Bool.or_eq_false_iff, bne_eq_false_iff_eq] at fresh
      exact fresh.2
    · exact current

theorem sync_zu_lang
    (long : ∃ kind : Kind, kind.text ∈ aktiveKinds ∧ kindBreite < kind.text.length) :
    syncWarnungen stamm incident troop aktiveKinds now db = .error (.dataTooLong "kind") := by
  rw [sync_eq own known]
  refine eroeffne_zu_lang (sound.schliesseAlle _) (fehlende_nodup _) (fehlende_fresh sound) ?_
  obtain ⟨kind, active, isLong⟩ := long
  refine ⟨kind, mem_fehlende.mpr ⟨active, fun present => ?_⟩, isLong⟩
  obtain ⟨offen, member, rfl⟩ := List.mem_map.mp present
  have inside := (List.mem_filter.mp (List.mem_filter.mp member).1).1
  exact absurd (sound.kurz offen inside) (Nat.not_le.mpr isLong)

end

theorem Db.Sound.sync {neue : List BreathingWarnung} {db' : Db} (sound : db.Sound)
    (ok : syncWarnungen stamm incident troop aktiveKinds now db = .ok (neue, db')) : db'.Sound := by
  by_cases own : troop.incidentId = incident.id
  · by_cases known : ∀ text ∈ aktiveKinds, (Kind.ofText? text).isSome
    · by_cases long : ∃ kind : Kind, kind.text ∈ aktiveKinds ∧ kindBreite < kind.text.length
      · rw [sync_zu_lang sound own known long] at ok
        cases ok
      · push Not at long
        obtain ⟨neue', db'', ok', sound', -⟩ := @sync_abgeglichen db now stamm incident troop _ sound own known long
        rw [ok'] at ok
        cases ok
        exact sound'
    · push Not at known
      obtain ⟨text, member, unknown⟩ := known
      have listed : text ∈ aktiveKinds.filter fun text => (Kind.ofText? text).isNone :=
        List.mem_filter.mpr ⟨member, by simpa using unknown⟩
      simp only [syncWarnungen] at ok
      rw [if_neg (not_not.mpr own), if_pos (List.ne_nil_of_mem listed)] at ok
      cases ok
  · simp only [syncWarnungen] at ok
    rw [if_pos own] at ok
    cases ok

end Sync

end Einsatzcockpit.Notify

namespace Einsatzcockpit.Notify

theorem kindBreite_lt_iff (kind : Kind) : kindBreite < kind.text.length ↔ kind = .keinSicherheitstrupp := by
  cases kind <;> decide

variable {db db' : Db} {fl : Breathing.Gleitkomma} {stamm : Stammdaten} {now : Zeit} {uhr : Nat → Zeit}

theorem Db.Sound.scanTrupp {lage : Einsatzlage} {troop : Breathing.BreathingTroop} (sound : db.Sound)
    (ok : scanTrupp fl stamm now uhr lage db troop = .ok db') : db'.Sound := by
  unfold Notify.scanTrupp at ok
  split at ok
  · cases ok
    exact sound.schliesseAlle _
  · cases synced : syncWarnungen stamm lage.incident troop (aktiveKinds fl lage (uhr troop.id) troop) now db with
    | error fehler =>
      rw [synced] at ok
      cases ok
    | ok result =>
      rw [synced] at ok
      cases ok
      exact sound.sync synced

theorem Db.Sound.scanEinsatz {lage : Einsatzlage} (sound : db.Sound)
    (ok : scanEinsatz fl stamm now uhr db lage = .ok db') : db'.Sound := by
  unfold Notify.scanEinsatz at ok
  split at ok
  · exact Transition.foldlM_keeps (fun _ _ _ held round => held.scanTrupp round) sound ok
  · cases ok
    exact sound

theorem Db.Sound.collect {lagen : List Einsatzlage} (sound : db.Sound)
    (ok : collectNewBreathingWarnings fl stamm now uhr lagen db = .ok db') : db'.Sound :=
  Transition.foldlM_keeps (fun _ _ _ held round => held.scanEinsatz round) sound ok

theorem Db.Sound.step (sound : db.Sound) (action : Action) : (step db action).Sound := by
  cases action with
  | sync stamm incident troop aktiveKinds now =>
    simp only [Notify.step]
    split
    · next ok => exact sound.sync ok
    · exact sound
  | schliesse troopId now => exact sound.schliesseAlle _
  | collect fl stamm now uhr lagen =>
    simp only [Notify.step]
    split
    · next ok => exact sound.collect ok
    · exact sound

theorem run_sound (actions : List Action) : (run {} actions).Sound :=
  Transition.run_invariant Db.Sound (fun _ action held => held.step action) Db.sound_empty actions

theorem Db.Sound.einzel (sound : db.Sound) (troopId : Nat) (kind : Kind) : (db.arten troopId).count kind ≤ 1 := by
  have offene : ((db.offene troopId).map fun warnung => (warnung.troopId, warnung.kind)).Nodup := by
    refine sound.einzeln.sublist (List.Sublist.map _ ?_)
    rw [Db.offene, ← List.filter_filter]
    exact List.filter_sublist
  have same : (db.offene troopId).map (fun warnung => (warnung.troopId, warnung.kind)) =
      (db.arten troopId).map fun kind => (troopId, kind) := by
    rw [Db.arten, List.map_map]
    refine List.map_congr_left fun warnung member => ?_
    have ofTroop := (List.mem_filter.mp member).2
    simp only [Bool.and_eq_true, beq_iff_eq] at ofTroop
    rw [ofTroop.1]
    rfl
  rw [same] at offene
  exact List.nodup_iff_count_le_one.mp (List.Nodup.of_map _ offene) kind

theorem Db.Sound.geschlossen (sound : db.Sound) {warnung : BreathingWarnung} (member : warnung ∈ db.warnungen)
    (closed : warnung.erledigtAt ≠ none) {zeile : BreathingZustellung} (inside : zeile ∈ db.zustellungen)
    (own : zeile.warnungId = warnung.id) : zeile.status ≠ .pending := by
  intro pending
  obtain ⟨other, found, same, open'⟩ := sound.ruhig zeile inside pending
  rw [sound.warnungen.inj member found (own.symm.trans same.symm)] at closed
  exact closed open'

/-- After any run, no two open warnings of a troop are of one kind, a closed
warning has no pending delivery, and a recipient has one delivery a warning,
stage and channel; and the next scan of a troop with known kinds leaves exactly
the active kinds open, in the current cycle, if and only if the kind that is too
long for its column is not among them. -/
theorem warnungen_episoden (actions : List Action) :
    (∀ troopId kind, ((run {} actions).arten troopId).count kind ≤ 1) ∧
    (∀ warnung ∈ (run {} actions).warnungen, warnung.erledigtAt ≠ none →
      ∀ zeile ∈ (run {} actions).zustellungen, zeile.warnungId = warnung.id → zeile.status ≠ .pending) ∧
    ((run {} actions).zustellungen.map BreathingZustellung.key).Nodup ∧
    ∀ stamm incident troop aktiveKinds now, troop.incidentId = incident.id →
      (∀ text ∈ aktiveKinds, (Kind.ofText? text).isSome) →
      (Abgeglichen troop aktiveKinds (run {} (actions ++ [.sync stamm incident troop aktiveKinds now])) ↔
        "kein_sicherheitstrupp" ∉ aktiveKinds) := by
  have sound := run_sound actions
  refine ⟨sound.einzel, fun warnung member closed zeile inside own => sound.geschlossen member closed inside own,
    sound.eindeutig, ?_⟩
  intro stamm incident troop aktiveKinds now own known
  rw [run, Transition.run_append, Transition.run_cons, Transition.run_nil, step]
  by_cases active : Kind.keinSicherheitstrupp.text ∈ aktiveKinds
  · rw [sync_zu_lang sound own known ⟨_, active, (kindBreite_lt_iff _).mpr rfl⟩]
    refine iff_of_false (fun done => ?_) (not_not.mpr active)
    -- the scan raised, and no earlier one has opened the kind
    obtain ⟨offen, member, isKind⟩ := List.mem_map.mp ((done.1 .keinSicherheitstrupp).mpr active)
    have short := sound.kurz offen (List.mem_filter.mp member).1
    exact absurd ((kindBreite_lt_iff _).mpr isKind) (Nat.not_lt.mpr short)
  · have short : ∀ kind : Kind, kind.text ∈ aktiveKinds → kind.text.length ≤ kindBreite := by
      intro kind isActive
      by_contra long
      rw [Nat.not_le, kindBreite_lt_iff] at long
      exact active (long ▸ isActive)
    obtain ⟨neue, db', ok, -, done⟩ := @sync_abgeglichen _ now stamm incident troop _ sound own known short
    rw [ok]
    exact iff_of_true done active

namespace Beispiel

def einsatz : Incident := { id := 1, primaryOrgId := some 1 }

def trupp : Breathing.BreathingTroop :=
  { id := 1, incidentId := 1, name := "Angriffstrupp", status := .imEinsatz, entryAt := some 0 }

end Beispiel

theorem warnungen_episoden_rueckzug :
    Abgeglichen Beispiel.trupp ["withdraw"] (run {} [.sync {} Beispiel.einsatz Beispiel.trupp ["withdraw"] 5]) :=
  ((warnungen_episoden []).2.2.2 {} Beispiel.einsatz Beispiel.trupp ["withdraw"] 5 rfl (by decide)).mpr (by decide)

/-- One troop inside and none that stands by: the hint is active, and the scan
raises instead of opening a warning. -/
theorem sicherheitstrupp_nie_offen :
    syncWarnungen {} Beispiel.einsatz Beispiel.trupp ["kein_sicherheitstrupp"] 5 {} = .error (.dataTooLong "kind") ∧
    ¬ Abgeglichen Beispiel.trupp ["kein_sicherheitstrupp"]
      (run {} [.sync {} Beispiel.einsatz Beispiel.trupp ["kein_sicherheitstrupp"] 5]) := by
  have raised : syncWarnungen {} Beispiel.einsatz Beispiel.trupp ["kein_sicherheitstrupp"] 5 {} =
      .error (.dataTooLong "kind") := by
    decide +kernel
  refine ⟨raised, fun done => ?_⟩
  have opened := (done.1 .keinSicherheitstrupp).mpr (List.mem_singleton_self _)
  rw [run, Transition.run_cons, Transition.run_nil, step, raised] at opened
  cases opened

/-- Repeated for the same troop and kinds, a scan opens nothing and closes nothing. -/
theorem sync_wiederholt (actions : List Action) (stamm stamm' : Stammdaten) (incident : Incident)
    (troop : Breathing.BreathingTroop) (aktiveKinds : List String) (now later : Zeit) :
    run {} (actions ++ [.sync stamm incident troop aktiveKinds now, .sync stamm' incident troop aktiveKinds later]) =
      run {} (actions ++ [.sync stamm incident troop aktiveKinds now]) := by
  have sound := run_sound actions
  simp only [run, Transition.run_append, Transition.run_cons, Transition.run_nil] at sound ⊢
  by_cases own : troop.incidentId = incident.id
  · by_cases known : ∀ text ∈ aktiveKinds, (Kind.ofText? text).isSome
    · by_cases long : ∃ kind : Kind, kind.text ∈ aktiveKinds ∧ kindBreite < kind.text.length
      · simp only [step, sync_zu_lang sound own known long]
      · push Not at long
        obtain ⟨neue, db, ok, -, kinds, zyklus⟩ := @sync_abgeglichen _ now stamm incident troop _ sound own known long
        have kept : ∀ offen ∈ db.offene troop.id, veraltet troop aktiveKinds offen = false := by
          intro offen member
          have active := (kinds offen.kind).mp (List.mem_map_of_mem member)
          simp [veraltet, zyklus offen member, active]
        have all : (db.offene troop.id).filter (fun warnung => !veraltet troop aktiveKinds warnung) = db.offene troop.id :=
          List.filter_eq_self.mpr fun offen member => by rw [kept offen member]; rfl
        have nothing : fehlende aktiveKinds ((db.offene troop.id).map (·.kind)) = [] :=
          List.eq_nil_iff_forall_not_mem.mpr fun kind missing =>
            (mem_fehlende.mp missing).2 ((kinds kind).mpr (mem_fehlende.mp missing).1)
        have clean : bereinigt troop aktiveKinds later db = db := by
          rw [bereinigt, List.filter_eq_nil_iff.mpr fun offen member => by simp [kept offen member]]
          rfl
        have again : syncWarnungen stamm' incident troop aktiveKinds later db = .ok ([], db) := by
          rw [sync_eq own known, all, clean, nothing]
          rfl
        simp only [step, ok, again]
    · have unknown : aktiveKinds.filter (fun text => (Kind.ofText? text).isNone) ≠ [] := by
        simpa using known
      simp [step, syncWarnungen, own, unknown]
  · simp [step, syncWarnungen, own]

end Einsatzcockpit.Notify
