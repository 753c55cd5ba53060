import Einsatzcockpit.Asuew.Ueberlagerung

namespace Einsatzcockpit.Asuew

theorem mem_foldl_schluessel {alarms seen : List Alarm} {a : Alarm} :
    a ∈ alarms.foldl (fun seen alarm => if seen.any (·.key == alarm.key) then seen else seen ++ [alarm]) seen ↔
      a ∈ seen ∨ seen.any (·.key == a.key) = false ∧ alarms.find? (·.key == a.key) = some a := by
  induction alarms generalizing seen with
  | nil => simp
  | cons head rest ih =>
    rw [List.foldl_cons, ih]
    by_cases known : seen.any (·.key == head.key) = true
    · rw [if_pos known]
      by_cases same : head.key = a.key
      · rw [same] at known
        simp [known]
      · rw [List.find?_cons_of_neg (by simpa using same)]
    · rw [if_neg known]
      by_cases same : head.key = a.key
      · rw [List.find?_cons_of_pos (by simpa using same)]
        rw [same, Bool.not_eq_true] at known
        simp [known, same, eq_comm]
      · rw [List.find?_cons_of_neg (by simpa using same)]
        have different : a ≠ head := fun equal => same (congrArg Alarm.key equal).symm
        simp [same, different]

theorem mem_activeAlarms {state : Zustand} {now : Int} {a : Alarm} :
    a ∈ activeAlarms state now ↔ (state.troops.flatMap (truppAlarme now)).find? (·.key == a.key) = some a := by
  rw [activeAlarms, List.mem_insertionSort, jeSchluessel, mem_foldl_schluessel]
  simp

theorem mem_activeAlarms_congr {state state' : Zustand} {now : Int} (q : Int × String × Int → Bool)
    (same : (state'.troops.flatMap (truppAlarme now)).filter (q ·.key) =
      (state.troops.flatMap (truppAlarme now)).filter (q ·.key)) {a : Alarm} (ofKind : q a.key = true) :
    a ∈ activeAlarms state' now ↔ a ∈ activeAlarms state now := by
  have restricted : ∀ alarms : List Alarm,
      alarms.find? (·.key == a.key) = (alarms.filter (q ·.key)).find? (·.key == a.key) := by
    intro alarms
    rw [List.find?_filter]
    congr 1
    funext b
    by_cases equal : b.key = a.key
    · simp [equal, ofKind]
    · simp [equal]
  rw [mem_activeAlarms, mem_activeAlarms, restricted, same, ← restricted]

theorem Gleich.truppAlarme {t t' : Trupp} (gleich : Gleich t t') (now : Int) :
    truppAlarme now t' = truppAlarme now t := by
  obtain ⟨kontrollen, rfl, same⟩ := gleich
  have deadlines : pendingDeadlines { t with kontrollen } = pendingDeadlines t := by
    simp only [pendingDeadlines, stufenFrist, same]
    rfl
  simp only [Asuew.truppAlarme, timeWarnings, deadlines]
  rfl

/-- What the overlay does to a troop: it raises nothing and takes no notice of
the two alarms that only people raise. -/
structure Gedaempft (t t' : Trupp) : Prop where
  fest : t'.fest = t.fest
  kontrolliert : ∀ stufe, t.kontrolliert stufe = true → t'.kontrolliert stufe = true
  druck : ∀ at_, t'.lastPressureAtMs.all (· < at_) = true → t.lastPressureAtMs.all (· < at_) = true
  acked : t.maxTimeAcked = true → t'.maxTimeAcked = true
  weniger : t'.serverWarnings ⊆ t.serverWarnings
  gemeldet : ∀ kind ∈ ["notfall", "funk_verloren"],
    t'.serverWarnings.filter (· == kind) = t.serverWarnings.filter (· == kind)

namespace Gedaempft

theorem refl (t : Trupp) : Gedaempft t t :=
  ⟨rfl, fun _ => id, fun _ => id, id, fun _ => id, fun _ _ => rfl⟩

theorem trans {t t' t'' : Trupp} (first : Gedaempft t t') (second : Gedaempft t' t'') : Gedaempft t t'' :=
  ⟨second.fest.trans first.fest, fun stufe made => second.kontrolliert stufe (first.kontrolliert stufe made),
    fun at_ before => first.druck at_ (second.druck at_ before), fun acked => second.acked (first.acked acked),
    fun _ inside => first.weniger (second.weniger inside),
    fun kind isKind => (second.gemeldet kind isKind).trans (first.gemeldet kind isKind)⟩

end Gedaempft

theorem filter_kept {warnings : List String} {p : String → Bool} {kind : String} (kept : p kind = true) :
    (warnings.filter p).filter (· == kind) = warnings.filter (· == kind) := by
  rw [List.filter_filter]
  refine List.filter_congr fun w _ => ?_
  by_cases same : w = kind
  · simp [same, kept]
  · simp [same]

theorem bleibt_gemeldet (t : Trupp) (last : Int) {kind : String} (isKind : kind ∈ ["notfall", "funk_verloren"]) :
    bleibt t last kind = true := by
  have unknown : sekundenZu t kind = .fehlt := by
    simp only [List.mem_cons, List.not_mem_nil, or_false] at isKind
    rcases isKind with rfl | rfl <;> rfl
  unfold bleibt
  rw [unknown]
  cases t.entryAtMs <;> rfl

theorem Wirkung.gedaempft {f : Trupp → Trupp} (wirkung : Wirkung f) (t : Trupp) : Gedaempft t (f t) := by
  cases wirkung with
  | nichts => exact .refl t
  | kontrolle stufe atServerMs =>
    refine ⟨rfl, fun stufe' made => ?_, fun _ => id, id, List.filter_sublist.subset, fun kind isKind => filter_kept ?_⟩
    · rw [kontrolliere_kontrolliert, made, Bool.true_or]
    · simp only [List.mem_cons, List.not_mem_nil, or_false] at isKind
      unfold warnungZu
      rcases isKind with rfl | rfl <;> split <;> first | rfl | split <;> rfl
  | druck atServerMs =>
    refine ⟨rfl, fun _ => id, fun at_ before => ?_, id, List.filter_sublist.subset, fun kind isKind =>
      filter_kept (bleibt_gemeldet t _ isKind)⟩
    cases last : t.lastPressureAtMs with
    | none => rfl
    | some last' =>
      simp only [meldeDruck, last, Option.getD_some, Option.all_some, decide_eq_true_eq] at before ⊢
      omega
  | maxTime =>
    refine ⟨rfl, fun _ => id, fun _ => id, fun _ => rfl, List.filter_sublist.subset, fun kind isKind => filter_kept ?_⟩
    simp only [List.mem_cons, List.not_mem_nil, or_false] at isKind
    rcases isKind with rfl | rfl <;> decide
  | withdraw =>
    refine ⟨rfl, fun _ => id, fun _ => id, id, List.filter_sublist.subset, fun kind isKind => filter_kept ?_⟩
    simp only [List.mem_cons, List.not_mem_nil, or_false] at isKind
    rcases isKind with rfl | rfl <;> decide

theorem ueberlagert_gedaempft (t : Trupp) (events : List Ereignis) : Gedaempft t (events.foldl wendeAn t) := by
  induction events generalizing t with
  | nil => exact .refl t
  | cons e rest ih =>
    have first : Gedaempft t (wendeAn t e) := by
      obtain ⟨f, wirkung, spec⟩ := wendeAn_wirkung e
      rw [spec]
      split
      · exact wirkung.gedaempft t
      · exact .refl t
    exact first.trans (ih _)

theorem applyLocalEvents_troops (state : Zustand) (events : List Ereignis) :
    (applyLocalEvents state events).troops = state.troops.map fun t => events.foldl wendeAn t := by
  unfold applyLocalEvents
  split
  · next none =>
    subst none
    exact (List.map_id state.troops).symm
  · rfl

section Troop

variable {t t' : Trupp}

theorem Gedaempft.stufenFrist_subset (gedaempft : Gedaempft t t') (entryAtMs : Int) (seconds : Option Int)
    (kind stufe : String) : stufenFrist t' entryAtMs seconds kind stufe ⊆ stufenFrist t entryAtMs seconds kind stufe := by
  have sameId : t'.id = t.id := by rw [whole_of_fest gedaempft.fest]
  unfold stufenFrist
  split
  · exact List.Subset.refl _
  · next seconds =>
    dsimp only
    split
    · next due =>
      rw [Bool.and_eq_true, Bool.not_eq_true'] at due
      have unmade : t.kontrolliert stufe = false := by
        rw [Bool.eq_false_iff]
        intro made
        rw [gedaempft.kontrolliert stufe made] at due
        cases due.1
      rw [unmade, gedaempft.druck _ due.2, sameId]
      exact List.Subset.refl _
    · exact List.nil_subset _

theorem Gedaempft.timeWarnings_subset (gedaempft : Gedaempft t t') (now : Int) :
    timeWarnings t' now ⊆ timeWarnings t now := by
  have deadlines : pendingDeadlines t' ⊆ pendingDeadlines t := by
    have entry : t'.entryAtMs = t.entryAtMs := by rw [whole_of_fest gedaempft.fest]
    have active : isActive t' = isActive t := by rw [whole_of_fest gedaempft.fest]; rfl
    have planned : t'.maxSeconds = t.maxSeconds ∧ t'.twoThirdSeconds = t.twoThirdSeconds ∧
        t'.oneThirdSeconds = t.oneThirdSeconds ∧ t'.id = t.id := by
      rw [whole_of_fest gedaempft.fest]
      exact ⟨rfl, rfl, rfl, rfl⟩
    unfold pendingDeadlines
    rw [entry, active, planned.1, planned.2.1, planned.2.2.1, planned.2.2.2]
    split
    · exact List.Subset.refl _
    · next entryAtMs =>
      split
      · exact List.Subset.refl _
      · refine List.append_subset.mpr ⟨List.append_subset.mpr ⟨?_, ?_⟩, ?_⟩
        · refine fun frist inside => List.mem_append_left _ (List.mem_append_left _ ?_)
          cases seconds : t.maxSeconds with
          | none =>
            rw [seconds] at inside
            exact inside
          | some seconds' =>
            rw [seconds] at inside
            dsimp only at inside ⊢
            split at inside
            · cases inside
            · next unacked =>
              rw [if_neg fun acked => unacked (gedaempft.acked acked)]
              exact inside
        · refine fun frist inside => List.mem_append_left _ (List.mem_append_right _ ?_)
          exact gedaempft.stufenFrist_subset _ _ _ _ inside
        · refine fun frist inside => List.mem_append_right _ ?_
          exact gedaempft.stufenFrist_subset _ _ _ _ inside
  intro kind member
  obtain ⟨frist, inside, rfl⟩ := List.mem_map.mp member
  obtain ⟨pending, due⟩ := List.mem_filter.mp inside
  exact List.mem_map_of_mem (List.mem_filter.mpr ⟨deadlines pending, due⟩)

theorem timeWarnings_kind {now : Int} {kind : String} (member : kind ∈ timeWarnings t now) :
    kind ∈ ["max_exceeded", "two_third_due", "one_third_due"] := by
  obtain ⟨frist, inside, rfl⟩ := List.mem_map.mp member
  have pending := (List.mem_filter.mp inside).1
  have stufe : ∀ {entryAtMs seconds kind stufe}, frist ∈ stufenFrist t entryAtMs seconds kind stufe → frist.kind = kind := by
    intro entryAtMs seconds kind stufe found
    unfold stufenFrist at found
    split at found
    · cases found
    · dsimp only at found
      split at found
      · rw [List.mem_singleton.mp found]
      · cases found
  unfold pendingDeadlines at pending
  split at pending
  · cases pending
  · split at pending
    · cases pending
    · rcases List.mem_append.mp pending with earlier | oneThird
      · rcases List.mem_append.mp earlier with max | twoThird
        · split at max
          · cases max
          · split at max
            · cases max
            · rw [List.mem_singleton.mp max]
              exact List.mem_cons_self ..
        · rw [stufe twoThird]
          decide
      · rw [stufe oneThird]
        decide

theorem serverKinds_of_fest (fest : t'.fest = t.fest) :
    serverKinds t' = t'.serverWarnings.filter fun k =>
      severity.contains k && (isActive t || (k == "notfall" && t.notfallAtMs.isSome) ||
        (k == "funk_verloren" && t.funkVerlorenAtMs.isSome)) := by
  have same : isActive t' = isActive t ∧ t'.notfallAtMs = t.notfallAtMs ∧ t'.funkVerlorenAtMs = t.funkVerlorenAtMs := by
    rw [whole_of_fest fest]
    exact ⟨rfl, rfl, rfl⟩
  rw [serverKinds, same.1, same.2.1, same.2.2]

theorem truppAlarme_of_fest (fest : t'.fest = t.fest) (now : Int) :
    truppAlarme now t' = (serverKinds t' ++ timeWarnings t' now).map fun kind =>
      ⟨t.id, t.name, kind, (t.id, kind, t.entryAtMs.getD 0)⟩ := by
  have same : t'.id = t.id ∧ t'.name = t.name ∧ t'.entryAtMs = t.entryAtMs := by
    rw [whole_of_fest fest]
    exact ⟨rfl, rfl, rfl⟩
  rw [truppAlarme, same.1, same.2.1, same.2.2]

theorem Gedaempft.truppAlarme_subset (gedaempft : Gedaempft t t') (now : Int) :
    truppAlarme now t' ⊆ truppAlarme now t := by
  rw [truppAlarme_of_fest gedaempft.fest]
  refine List.map_subset _ (List.append_subset.mpr ⟨fun kind member => ?_, fun kind member => ?_⟩)
  · rw [serverKinds_of_fest gedaempft.fest] at member
    obtain ⟨inside, shown⟩ := List.mem_filter.mp member
    exact List.mem_append_left _ (List.mem_filter.mpr ⟨gedaempft.weniger inside, shown⟩)
  · exact List.mem_append_right _ (gedaempft.timeWarnings_subset now member)

theorem Gedaempft.truppAlarme_gemeldet (gedaempft : Gedaempft t t') (now : Int) {kind : String}
    (isKind : kind ∈ ["notfall", "funk_verloren"]) :
    (truppAlarme now t').filter (fun a => a.key.2.1 == kind) = (truppAlarme now t).filter fun a => a.key.2.1 == kind := by
  have noDeadline : ∀ u : Trupp, (timeWarnings u now).filter (· == kind) = [] := by
    intro u
    refine List.filter_eq_nil_iff.mpr fun other member same => ?_
    have known := timeWarnings_kind member
    rw [beq_iff_eq.mp same] at known
    simp only [List.mem_cons, List.not_mem_nil, or_false] at isKind known
    rcases isKind with rfl | rfl <;> simp at known
  have kinds : (serverKinds t' ++ timeWarnings t' now).filter (· == kind) =
      (serverKinds t ++ timeWarnings t now).filter (· == kind) := by
    rw [List.filter_append, List.filter_append, noDeadline, noDeadline, serverKinds_of_fest gedaempft.fest, serverKinds,
      List.filter_comm, gedaempft.gemeldet kind isKind, List.filter_comm]
  rw [truppAlarme_of_fest gedaempft.fest, truppAlarme, List.filter_map, List.filter_map]
  exact congrArg _ kinds

end Troop

structure Sicher (state : Zustand) (events : List Ereignis) (now : Int) : Prop where
  ordnungsfrei : ∀ events', (∀ e, e ∈ events' ↔ e ∈ events) →
    activeAlarms (applyLocalEvents state events') now = activeAlarms (applyLocalEvents state events) now
  teilmenge : ∀ a ∈ activeAlarms (applyLocalEvents state events) now,
    ∃ b ∈ activeAlarms state now, b.key = a.key ∧ b.troopId = a.troopId ∧ b.kind = a.kind
  eindeutig : (state.troops.map (·.id)).Nodup →
    activeAlarms (applyLocalEvents state events) now ⊆ activeAlarms state now
  gemeldet : ∀ a ∈ activeAlarms state now, a.kind = "notfall" ∨ a.kind = "funk_verloren" →
    a ∈ activeAlarms (applyLocalEvents state events) now
  andere : ∀ t ∈ state.troops, (∀ e ∈ events, e.eigen t = false) →
    ∀ a, a.key = (t.id, a.kind, t.entryAtMs.getD 0) →
      (a ∈ activeAlarms (applyLocalEvents state events) now ↔ a ∈ activeAlarms state now)

section Sicher

variable {state : Zustand} {events : List Ereignis} {now : Int}

theorem alarme_ueberlagert (state : Zustand) (events : List Ereignis) (now : Int) :
    (applyLocalEvents state events).troops.flatMap (truppAlarme now) =
      state.troops.flatMap fun t => truppAlarme now (events.foldl wendeAn t) := by
  rw [applyLocalEvents_troops, List.flatMap_map]

theorem mem_truppAlarme {t : Trupp} {a : Alarm} (member : a ∈ truppAlarme now t) :
    a = ⟨t.id, t.name, a.kind, (t.id, a.kind, t.entryAtMs.getD 0)⟩ := by
  obtain ⟨kind, -, rfl⟩ := List.mem_map.mp member
  rfl

theorem alarm_truppe {a : Alarm} (member : a ∈ activeAlarms state now) :
    ∃ t ∈ state.troops, a ∈ truppAlarme now t :=
  List.mem_flatMap.mp (List.mem_of_find?_eq_some (mem_activeAlarms.mp member))

theorem ueberlagert_ordnungsfrei {events' : List Ereignis} (members : ∀ e, e ∈ events' ↔ e ∈ events) :
    activeAlarms (applyLocalEvents state events') now = activeAlarms (applyLocalEvents state events) now := by
  have same : ∀ t : Trupp, truppAlarme now (events'.foldl wendeAn t) = truppAlarme now (events.foldl wendeAn t) :=
    fun t => (orderFree.foldl_of_mem (fun e => (members e).symm) t).truppAlarme now
  rw [activeAlarms, alarme_ueberlagert, activeAlarms, alarme_ueberlagert]
  simp only [same]

theorem ueberlagert_teilmenge {a : Alarm} (member : a ∈ activeAlarms (applyLocalEvents state events) now) :
    (∃ t ∈ state.troops, a ∈ truppAlarme now t) ∧ ∃ b ∈ activeAlarms state now, b.key = a.key := by
  have raised := List.mem_of_find?_eq_some (mem_activeAlarms.mp member)
  rw [alarme_ueberlagert] at raised
  obtain ⟨t, inside, ofTroop⟩ := List.mem_flatMap.mp raised
  have before := (ueberlagert_gedaempft t events).truppAlarme_subset now ofTroop
  refine ⟨⟨t, inside, before⟩, ?_⟩
  obtain ⟨b, found⟩ : ∃ b, (state.troops.flatMap (truppAlarme now)).find? (·.key == a.key) = some b :=
    Option.isSome_iff_exists.mp
      (List.find?_isSome.mpr ⟨a, List.mem_flatMap.mpr ⟨t, inside, before⟩, beq_self_eq_true _⟩)
  have same : b.key = a.key := by simpa using List.find?_some found
  refine ⟨b, mem_activeAlarms.mpr ?_, same⟩
  rw [same]
  exact found

theorem ueberlagert_gemeldet {a : Alarm} (member : a ∈ activeAlarms state now)
    (isKind : a.kind ∈ ["notfall", "funk_verloren"]) : a ∈ activeAlarms (applyLocalEvents state events) now := by
  have same : ((applyLocalEvents state events).troops.flatMap (truppAlarme now)).filter (fun b => b.key.2.1 == a.kind) =
      (state.troops.flatMap (truppAlarme now)).filter fun b => b.key.2.1 == a.kind := by
    rw [alarme_ueberlagert, List.filter_flatMap, List.filter_flatMap]
    congr 1
    funext t
    exact (ueberlagert_gedaempft t events).truppAlarme_gemeldet now isKind
  obtain ⟨t, -, ofTroop⟩ := alarm_truppe member
  refine (mem_activeAlarms_congr (·.2.1 == a.kind) same ?_).mpr member
  rw [mem_truppAlarme ofTroop]
  exact beq_self_eq_true _

theorem foldl_fremd {t : Trupp} {events : List Ereignis} (fremd : ∀ e ∈ events, e.eigen t = false) :
    events.foldl wendeAn t = t := by
  induction events with
  | nil => rfl
  | cons e rest ih =>
    have first : wendeAn t e = t := by rw [wendeAn, fremd e (List.mem_cons_self ..), Bool.not_false, if_pos rfl]
    rw [List.foldl_cons, first]
    exact ih fun e' later => fremd e' (List.mem_cons_of_mem _ later)

theorem fremd_of_key {t u : Trupp} {e : Ereignis} (valid : isValidLocalEvent e = true) (fremd : e.eigen t = false)
    (sameId : u.id = t.id) (entry : u.entryAtMs.getD 0 = t.entryAtMs.getD 0) : e.eigen u = false := by
  have late : 0 < e.atServerMs := by
    simp only [isValidLocalEvent, Bool.and_eq_true, decide_eq_true_eq] at valid
    exact valid.1.1.1.1.1.2
  unfold Ereignis.eigen at fremd ⊢
  rw [sameId]
  by_cases named : e.troopId = t.id
  · rw [named, beq_self_eq_true, Bool.true_and] at fremd ⊢
    cases entryT : t.entryAtMs with
    | none =>
      rw [entryT] at fremd
      cases fremd
    | some m =>
      cases entryU : u.entryAtMs with
      | none =>
        rw [entryT] at fremd entry
        rw [entryU] at entry
        simp only [Option.getD_none, Option.getD_some, Option.all_some, decide_eq_false_iff_not] at entry fremd
        omega
      | some n =>
        rw [entryT] at fremd entry
        rw [entryU] at entry
        simp only [Option.getD_some] at entry
        rw [entry]
        exact fremd
  · rw [beq_eq_false_iff_ne.mpr named, Bool.false_and]

theorem ueberlagert_andere (valid : ∀ e ∈ events, isValidLocalEvent e = true) {t : Trupp}
    (fremd : ∀ e ∈ events, e.eigen t = false) {a : Alarm} (ofTroop : a.key = (t.id, a.kind, t.entryAtMs.getD 0)) :
    a ∈ activeAlarms (applyLocalEvents state events) now ↔ a ∈ activeAlarms state now := by
  let q : Int × String × Int → Bool := fun key => key.1 == t.id && key.2.2 == t.entryAtMs.getD 0
  refine mem_activeAlarms_congr q ?_ (by simp [q, ofTroop])
  rw [alarme_ueberlagert, List.filter_flatMap, List.filter_flatMap]
  congr 1
  funext u
  by_cases same : u.id = t.id ∧ u.entryAtMs.getD 0 = t.entryAtMs.getD 0
  · rw [foldl_fremd fun e member => fremd_of_key (valid e member) (fremd e member) same.1 same.2]
  · have none : ∀ b ∈ truppAlarme now u, q b.key = false := by
      intro b member
      rw [mem_truppAlarme member]
      rw [not_and_or] at same
      rcases same with id | entry
      · simp [q, id]
      · simp [q, entry]
    have left : (truppAlarme now (events.foldl wendeAn u)).filter (q ·.key) = [] := by
      refine List.filter_eq_nil_iff.mpr fun b member => ?_
      rw [none b ((ueberlagert_gedaempft u events).truppAlarme_subset now member)]
      exact Bool.false_ne_true
    have right : (truppAlarme now u).filter (q ·.key) = [] := by
      refine List.filter_eq_nil_iff.mpr fun b member => ?_
      rw [none b member]
      exact Bool.false_ne_true
    rw [left, right]

end Sicher

theorem ueberlagerung_sicher (state : Zustand) (now : Int) {events : List Ereignis}
    (valid : ∀ e ∈ events, isValidLocalEvent e = true) : Sicher state events now := by
  refine ⟨fun events' members => ueberlagert_ordnungsfrei members, fun a member => ?_, fun nodup a member => ?_,
    fun a member kind => ?_, fun t _ fremd a ofTroop => ueberlagert_andere valid fremd ofTroop⟩
  · obtain ⟨⟨t, -, ofTroop⟩, b, before, same⟩ := ueberlagert_teilmenge member
    obtain ⟨u, -, ofTroop'⟩ := alarm_truppe before
    refine ⟨b, before, same, ?_⟩
    rw [mem_truppAlarme ofTroop, mem_truppAlarme ofTroop'] at same ⊢
    exact ⟨congrArg Prod.fst same, congrArg (·.2.1) same⟩
  · obtain ⟨⟨t, inside, ofTroop⟩, b, before, same⟩ := ueberlagert_teilmenge member
    obtain ⟨u, inside', ofTroop'⟩ := alarm_truppe before
    have sameKey := same
    rw [mem_truppAlarme ofTroop, mem_truppAlarme ofTroop'] at sameKey
    have sameTroop : u = t := List.inj_on_of_nodup_map nodup inside' inside (congrArg Prod.fst sameKey)
    have equal : b = a := by
      rw [mem_truppAlarme ofTroop, mem_truppAlarme ofTroop', sameTroop]
      have kind : b.kind = a.kind := congrArg (·.2.1) sameKey
      rw [kind]
    rw [← equal]
    exact before
  · refine ueberlagert_gemeldet member ?_
    rcases kind with notfall | funkVerloren
    · rw [notfall]
      decide
    · rw [funkVerloren]
      decide

def zweiTrupps : Zustand :=
  { troops := [
      { id := 1, name := "Angriff", status := "im_einsatz", entryAtMs := some 1000, oneThirdSeconds := some 600
        twoThirdSeconds := some 1200, maxSeconds := some 1800, serverWarnings := ["one_third_due"] },
      { id := 2, name := "Rettung", status := "im_einsatz", entryAtMs := some 5000, funkVerlorenAtMs := some 6000
        serverWarnings := ["funk_verloren"] }] }

def funkkontrolle : List Ereignis :=
  [{ troopId := 1, kind := "kontrolle", stufe := some "one_third", atServerMs := 601500 },
    { troopId := 1, kind := "druck", atServerMs := 601700 }]

theorem ueberlagerung_sicher_funkkontrolle :
    (∀ e ∈ funkkontrolle, isValidLocalEvent e = true) ∧ Sicher zweiTrupps funkkontrolle 602000 ∧
      (activeAlarms zweiTrupps 602000).map (·.kind) = ["funk_verloren", "one_third_due"] ∧
      (activeAlarms (applyLocalEvents zweiTrupps funkkontrolle) 602000).map (·.kind) = ["funk_verloren"] := by
  have valid : ∀ e ∈ funkkontrolle, isValidLocalEvent e = true := by decide
  refine ⟨valid, ueberlagerung_sicher zweiTrupps 602000 valid, ?_, ?_⟩ <;> decide +kernel

end Einsatzcockpit.Asuew
