import Mathlib.Data.List.Nodup
import Einsatzcockpit.Breathing.Cycle
import Einsatzcockpit.Breathing.WarningSet

namespace Einsatzcockpit.Breathing

variable {fl : Gleitkomma} {keys : Schluessel} {umgebung : Umgebung} {operation : Operation}
  {troop troop' : BreathingTroop}

section

variable (measured : Measured troop)
include measured

theorem Measured.map {change : TroopMember → TroopMember}
    (kept : ∀ member ∈ troop.members, (member.withdrawPress.isSome → member.startPress.isSome) →
      (change member).withdrawPress.isSome → (change member).startPress.isSome)
    (same : troop'.members = troop.members.map change) : Measured troop' := by
  intro member' known
  rw [same] at known
  obtain ⟨member, old, rfl⟩ := List.mem_map.mp known
  exact kept member old (measured member old)

theorem Measured.pressed (messung : Messung) (member : TroopMember) (press : ℚ)
    (note : Option String) (now : Zeit) : Measured (pressed messung member press note now troop) := by
  unfold Breathing.pressed
  split
  · exact measured
  · refine measured.map (fun other _ full => ?_) rfl
    split <;> exact full

theorem Measured.objectiveReached (distinct : (memberIds troop).Nodup) (untergrenze : ℚ)
    (messung : Messung) {member : TroopMember} (known : member ∈ troop.members) {startPress : ℚ}
    (full : member.startPress = some startPress) (press : ℚ) (now : Zeit) :
    Measured (objectiveReached fl untergrenze messung member startPress press now troop) := by
  refine measured.map (fun other old before => ?_) rfl
  split
  · next same =>
    have isMember : other = member := List.inj_on_of_nodup_map distinct old known same
    intro _
    simp [TroopMember.atObjective, isMember, full]
  · exact before

theorem Measured.effect (distinct : (memberIds troop).Nodup)
    (effect : Effect fl keys umgebung operation troop troop') : Measured troop' := by
  cases effect with
  | start =>
    refine measured.map (fun member _ full => ?_) rfl
    split
    · unfold TroopMember.started
      split
      · next isStart => exact fun _ => isStart
      · exact full
    · exact full
  | redeploy _ _ _ _ _ _ filled =>
    intro member known
    rcases List.mem_append.mp known with old | new
    · obtain ⟨original, was, rfl⟩ := List.mem_map.mp old
      unfold TroopMember.archive
      split <;> exact measured original was
    · simp [(liveMembers_fresh new).2.2]
  | druck => exact measured.pressed _ _ _ _ _
  | funk => exact measured.pressed _ _ _ _ _
  | einsatzziel messung press member startPress pressure inside found full =>
    exact measured.objectiveReached distinct _ messung (activeMember?_spec found).1 full press _
  | enddruck messung press member =>
    refine measured.map (fun other _ full => ?_) rfl
    split <;> exact full
  | repeated | status | keinKontakt | funkverlust | declared | notfall | notfallAufheben | meldung | ackMaxTime
  | ackWithdraw => exact measured

end

theorem createTroop_measured {data : TroopData} (ok : createTroop keys data = .ok troop) : Measured troop := by
  unfold createTroop at ok
  split at ok
  · cases ok
  · cases ok
    intro member live
    simp [(liveMembers_fresh live).2.2]

end Einsatzcockpit.Breathing

namespace Einsatzcockpit.Breathing

def Logged (troop : BreathingTroop) : Prop :=
  ∀ log ∈ troop.pressureLogs, log.troopMemberId ∈ memberIds troop

/-- The cycle has not begun: no pressure is reported, and every bottle is at
its start pressure. -/
structure Unused (troop : BreathingTroop) : Prop where
  logs : troop.activePressureLogs = []
  full : ∀ member ∈ troop.activeMembers, member.currentPress = member.startPress

variable {fl : Gleitkomma} {keys : Schluessel} {umgebung : Umgebung} {operation : Operation}
  {troop troop' : BreathingTroop}

theorem inCycle_map (change : TroopMember → TroopMember) (sameId : ∀ member, (change member).id = member.id)
    (sameCycle : ∀ member, (change member).deploymentId = member.deploymentId)
    (mapped : troop'.members = troop.members.map change) : troop'.inCycle = troop.inCycle := by
  funext log
  unfold BreathingTroop.inCycle BreathingTroop.troopMember
  rw [mapped, List.find?_map]
  have key : ((fun member : TroopMember => decide (member.id = log.troopMemberId)) ∘ change) =
      fun member : TroopMember => decide (member.id = log.troopMemberId) := by
    funext member
    show decide ((change member).id = log.troopMemberId) = _
    rw [sameId]
  rw [key, Option.any_map]
  congr 1
  funext member
  show (change member).deploymentId.isNone = _
  rw [sameCycle]

theorem inCycle_setMember (troop : BreathingTroop) (id : Nat) (change : TroopMember → TroopMember)
    (sameId : ∀ member, (change member).id = member.id)
    (sameCycle : ∀ member, (change member).deploymentId = member.deploymentId) :
    (troop.setMember id change).inCycle = troop.inCycle := by
  refine inCycle_map (fun member => if member.id = id then change member else member) (fun member => ?_)
    (fun member => ?_) rfl
  · split
    · exact sameId member
    · rfl
  · split
    · exact sameCycle member
    · rfl

section

variable (messung : Messung) (member : TroopMember) (press : ℚ) (note : Option String) (now : Zeit)
include messung member press note now

theorem inCycle_pressed :
    (pressed messung member press note now troop).inCycle = troop.inCycle := by
  unfold pressed
  split
  · rfl
  · exact inCycle_setMember troop member.id _ (fun _ => rfl) fun _ => rfl

theorem pressureLogs_pressed : (pressed messung member press note now troop).pressureLogs =
      troop.pressureLogs ++ [pressureLog messung member press note now] := by
  unfold pressed
  split <;> rfl

end

theorem inCycle_congr (same : troop'.members = troop.members) : troop'.inCycle = troop.inCycle := by
  funext log
  simp [BreathingTroop.inCycle, BreathingTroop.troopMember, same]

theorem inCycle_of_active (distinct : (memberIds troop).Nodup) {member : TroopMember}
    (active : member ∈ troop.activeMembers) {log : PressureLog} (isMember : log.troopMemberId = member.id) :
    troop.inCycle log = true := by
  obtain ⟨known, current⟩ := mem_activeMembers.mp active
  have found : (troop.members.find? (·.id = log.troopMemberId)).isSome :=
    List.find?_isSome.mpr ⟨member, known, by simp [isMember]⟩
  obtain ⟨other, isOther⟩ := Option.isSome_iff_exists.mp found
  have sameId : other.id = member.id := by
    have key := List.find?_some isOther
    rw [← isMember]
    simpa using key
  obtain rfl : other = member := List.inj_on_of_nodup_map distinct (List.mem_of_find?_eq_some isOther) known sameId
  simp [BreathingTroop.inCycle, BreathingTroop.troopMember, isOther, current]

theorem activePressureLogs_append (cycle : troop'.inCycle = troop.inCycle) {log : PressureLog}
    (appended : troop'.pressureLogs = troop.pressureLogs ++ [log]) (inside : troop.inCycle log = true) :
    troop'.activePressureLogs = troop.activePressureLogs ++ [log] := by
  unfold BreathingTroop.activePressureLogs
  rw [cycle, appended, List.filter_append, List.filter_cons_of_pos inside, List.filter_nil]

theorem activePressureLogs_pressed (distinct : (memberIds troop).Nodup) {member : TroopMember}
    (active : member ∈ troop.activeMembers) (messung : Messung) (press : ℚ) (note : Option String) (now : Zeit) :
    (pressed messung member press note now troop).activePressureLogs =
      troop.activePressureLogs ++ [pressureLog messung member press note now] :=
  activePressureLogs_append (inCycle_pressed messung member press note now)
    (pressureLogs_pressed messung member press note now) (inCycle_of_active distinct active rfl)

variable (fl) in
theorem activePressureLogs_objective (distinct : (memberIds troop).Nodup) {member : TroopMember}
    (active : member ∈ troop.activeMembers) (untergrenze : ℚ) (messung : Messung) (startPress press : ℚ) (now : Zeit) :
    (objectiveReached fl untergrenze messung member startPress press now troop).activePressureLogs =
      troop.activePressureLogs ++ [pressureLog messung member press (some "Einsatzziel erreicht") now] := by
  have cycle : (objectiveReached fl untergrenze messung member startPress press now troop).inCycle = troop.inCycle :=
    inCycle_setMember troop member.id (·.atObjective fl untergrenze startPress press now) (fun _ => rfl) fun _ => rfl
  exact activePressureLogs_append cycle rfl (inCycle_of_active distinct active rfl)

theorem archive_archived (deploymentId : Nat) (member : TroopMember) :
    (member.archive deploymentId).deploymentId.isSome := by
  unfold TroopMember.archive
  split
  · rfl
  · next active => simpa [Option.isSome_iff_ne_none] using active

theorem Unused.congr (unused : Unused troop) (members : troop'.members = troop.members)
    (logs : troop'.pressureLogs = troop.pressureLogs) : Unused troop' := by
  constructor
  · unfold BreathingTroop.activePressureLogs
    rw [inCycle_congr members, logs]
    exact unused.logs
  · unfold BreathingTroop.activeMembers
    rw [members]
    exact unused.full

theorem Unused.redeployed (logged : Logged troop) (filled : List CheckedMember) (task location : Option String)
    (planned : Option Nat) (preset : Option String) :
    Unused (redeployed keys filled task location planned preset troop) := by
  constructor
  · refine List.filter_eq_nil_iff.mpr fun log member => ?_
    obtain ⟨owner, known, owns⟩ := List.mem_map.mp (logged log member)
    have found : ((troop.members.map (·.archive keys.deployment)).find? (·.id = log.troopMemberId)).isSome :=
      List.find?_isSome.mpr ⟨owner.archive keys.deployment, List.mem_map_of_mem known, by simp [archive_id, owns]⟩
    obtain ⟨other, isOther⟩ := Option.isSome_iff_exists.mp found
    obtain ⟨original, -, rfl⟩ := List.mem_map.mp (List.mem_of_find?_eq_some isOther)
    have past := archive_archived keys.deployment original
    simp only [BreathingTroop.inCycle, BreathingTroop.troopMember, Breathing.redeployed, List.find?_append, isOther]
    cases archived : (original.archive keys.deployment).deploymentId with
    | none => simp [archived] at past
    | some id => simp [archived]
  · intro member active
    obtain ⟨known, current⟩ := mem_activeMembers.mp active
    rcases List.mem_append.mp known with old | live
    · obtain ⟨original, -, rfl⟩ := List.mem_map.mp old
      have past := archive_archived keys.deployment original
      simp [current] at past
    · exact (liveMembers_fresh live).2.1

theorem Effect.pressureLogs (effect : Effect fl keys umgebung operation troop troop') :
    troop'.pressureLogs = troop.pressureLogs ∨ ∃ log, troop'.pressureLogs = troop.pressureLogs ++ [log] ∧
      log.troopMemberId ∈ Breathing.memberIds troop := by
  have owner {id : Nat} {member : TroopMember} (found : troop.activeMember? id = some member) :
      member.id ∈ Breathing.memberIds troop := List.mem_map_of_mem (activeMember?_spec found).1
  cases effect with
  | druck messung note reason press member pressure inside found =>
    exact Or.inr ⟨_, pressureLogs_pressed .., owner found⟩
  | funk meldung stufe value press id member stage art reported pressure inside named found =>
    exact Or.inr ⟨_, pressureLogs_pressed .., owner found⟩
  | einsatzziel messung press member startPress pressure inside found =>
    exact Or.inr ⟨_, rfl, owner found⟩
  | start | repeated | status | redeploy | keinKontakt | enddruck | funkverlust | declared | notfall | notfallAufheben
  | meldung | ackMaxTime | ackWithdraw => exact Or.inl rfl

theorem Logged.effect (logged : Logged troop) (effect : Effect fl keys umgebung operation troop troop') :
    Logged troop' := by
  have kept : ∀ id ∈ memberIds troop, id ∈ memberIds troop' := by
    intro id known
    rcases effect.memberIds with same | ⟨n, grown⟩
    · rw [same]
      exact known
    · rw [grown]
      exact List.mem_append_left _ known
  intro log member
  rcases effect.pressureLogs with same | ⟨added, appended, owned⟩
  · rw [same] at member
    exact kept _ (logged log member)
  · rw [appended] at member
    rcases List.mem_append.mp member with old | new
    · exact kept _ (logged log old)
    · rw [List.mem_singleton.mp new]
      exact kept _ owned

theorem Unused.effect (logged : Logged troop) (unused : troop.status = .bereit → Unused troop)
    (effect : Effect fl keys umgebung operation troop troop') (idle : troop'.status = .bereit) : Unused troop' := by
  have reached (inside : troop.status.inside = true) : troop.status ≠ .bereit := by
    intro isIdle
    simp [isIdle, TroopStatus.inside] at inside
  cases effect with
  | start => cases idle
  | status newStatus ts status parsed allowed =>
    obtain rfl : status = .bereit := idle
    cases was : troop.status <;> simp [was, allowedTroopTransitions] at allowed
  | redeploy skipped data task location planned preset filled => exact Unused.redeployed logged filled ..
  | druck messung note reason press member pressure inside =>
    exact absurd ((pressed_times troop ..).1.symm.trans idle) (reached inside)
  | funk meldung stufe value press id member stage art reported pressure inside =>
    exact absurd ((pressed_times troop ..).1.symm.trans idle) (reached inside)
  | einsatzziel messung press member startPress pressure inside => exact absurd idle (reached inside)
  | keinKontakt meldung stufe stage art inside => exact absurd idle (reached inside)
  | enddruck messung press member pressure out =>
    have isIdle : troop.status = .bereit := idle
    simp [isIdle] at out
  | repeated | funkverlust | declared | notfall | notfallAufheben | meldung | ackMaxTime | ackWithdraw =>
    exact (unused idle).congr rfl rfl

structure Kept (stand : Stand) : Prop where
  keyed : Keyed stand
  measured : Measured stand.troop
  logged : Logged stand.troop
  unused : stand.troop.status = .bereit → Unused stand.troop

theorem createTroop_kept {data : TroopData} (ok : createTroop keys data = .ok troop) : Kept (born keys troop) := by
  refine ⟨createTroop_keyed ok, createTroop_measured ok, ?_, ?_⟩
  all_goals
    unfold createTroop at ok
    split at ok
    · cases ok
    · cases ok
      first
      | exact fun log member => absurd member List.not_mem_nil
      | exact fun _ => ⟨rfl, fun member active => (liveMembers_fresh (mem_activeMembers.mp active).1).2.1⟩

end Einsatzcockpit.Breathing
