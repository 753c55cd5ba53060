import Einsatzcockpit.Lib.Register
import Einsatzcockpit.Breathing.OldCycle

namespace Einsatzcockpit.Breathing

structure Reading where
  member : Nat
  ts : Zeit
  press : ℚ
  deriving DecidableEq

def PressureLog.reading (log : PressureLog) : Reading :=
  ⟨log.troopMemberId, log.ts, log.pressureBar⟩

def readingsOf (troop : BreathingTroop) (id : Nat) : List Reading :=
  (troop.activePressureLogs.map PressureLog.reading).filter (·.member = id)

def Tracks (troop : BreathingTroop) : Prop :=
  ∀ member ∈ troop.activeMembers, Register.Holds Reading.ts (fun reading => some reading.press) member.startPress
    (readingsOf troop member.id) member.currentPress

def WithinCycle (operation : Operation) : Prop :=
  (∀ reason userId, operation ≠ .start reason userId) ∧
    ∀ skipped data task location planned preset, operation ≠ .redeploy skipped data task location planned preset

variable {fl : Gleitkomma} {keys : Schluessel} {umgebung : Umgebung} {operation : Operation}
  {troop troop' : BreathingTroop}

theorem mem_readingsOf {id : Nat} {reading : Reading} :
    reading ∈ readingsOf troop id ↔ ∃ log ∈ troop.activePressureLogs, log.reading = reading ∧ log.troopMemberId = id := by
  simp only [readingsOf, List.mem_filter, List.mem_map, decide_eq_true_eq]
  constructor
  · rintro ⟨⟨log, member, rfl⟩, owned⟩
    exact ⟨log, member, rfl, owned⟩
  · rintro ⟨log, member, rfl, owned⟩
    exact ⟨⟨log, member, rfl⟩, owned⟩

theorem readingsOf_append {log : PressureLog} (appended : troop'.activePressureLogs = troop.activePressureLogs ++ [log])
    (id : Nat) : readingsOf troop' id =
      readingsOf troop id ++ if log.troopMemberId = id then [log.reading] else [] := by
  unfold readingsOf
  rw [appended, List.map_append, List.filter_append]
  by_cases owned : log.troopMemberId = id <;> simp [owned, PressureLog.reading]

theorem mem_active_map {change : TroopMember → TroopMember}
    (sameCycle : ∀ member, (change member).deploymentId = member.deploymentId)
    (mapped : troop'.members = troop.members.map change) {member : TroopMember} :
    member ∈ troop'.activeMembers ↔ ∃ before ∈ troop.activeMembers, change before = member := by
  rw [mem_activeMembers, mapped, List.mem_map]
  constructor
  · rintro ⟨⟨before, known, rfl⟩, current⟩
    exact ⟨before, mem_activeMembers.mpr ⟨known, (sameCycle before).symm.trans current⟩, rfl⟩
  · rintro ⟨before, active, rfl⟩
    obtain ⟨known, current⟩ := mem_activeMembers.mp active
    exact ⟨⟨before, known, rfl⟩, (sameCycle before).trans current⟩

theorem Tracks.map (tracks : Tracks troop) (change : TroopMember → TroopMember)
    (frame : ∀ member, (change member).id = member.id ∧ (change member).deploymentId = member.deploymentId ∧
      (change member).startPress = member.startPress ∧ (change member).currentPress = member.currentPress)
    (mapped : troop'.members = troop.members.map change) (logs : troop'.pressureLogs = troop.pressureLogs) :
    Tracks troop' := by
  have cycle := inCycle_map change (fun member => (frame member).1) (fun member => (frame member).2.1) mapped
  have same : troop'.activePressureLogs = troop.activePressureLogs := by
    unfold BreathingTroop.activePressureLogs
    rw [cycle, logs]
  intro member active
  obtain ⟨before, was, rfl⟩ := (mem_active_map (fun member => (frame member).2.1) mapped).mp active
  obtain ⟨id, -, start, current⟩ := frame before
  have held := tracks before was
  rw [id, start, current]
  unfold readingsOf at held ⊢
  rwa [same]

theorem Tracks.older (tracks : Tracks troop) {log newer : PressureLog} (members : troop'.members = troop.members)
    (appended : troop'.activePressureLogs = troop.activePressureLogs ++ [log])
    (known : newer ∈ troop.activePressureLogs) (owner : newer.troopMemberId = log.troopMemberId)
    (later : log.ts ≤ newer.ts) : Tracks troop' := by
  intro member active
  have was : member ∈ troop.activeMembers := by
    unfold BreathingTroop.activeMembers at active ⊢
    rwa [members] at active
  rw [readingsOf_append appended]
  split
  · next owned =>
    have isReading : newer.reading ∈ readingsOf troop member.id :=
      mem_readingsOf.mpr ⟨newer, known, rfl, owner.trans owned⟩
    exact (tracks member was).older isReading later
  · rw [List.append_nil]
    exact tracks member was

theorem Tracks.newest (tracks : Tracks troop) {log : PressureLog} (id : Nat) (change : TroopMember → TroopMember)
    (frame : ∀ member, (change member).id = member.id ∧ (change member).deploymentId = member.deploymentId)
    (written : ∀ member, (change member).currentPress = some log.pressureBar)
    (owned : log.troopMemberId = id) (members : troop'.members = (troop.setMember id change).members)
    (appended : troop'.activePressureLogs = troop.activePressureLogs ++ [log])
    (newest : ∀ other ∈ troop.activePressureLogs, other.troopMemberId = id → other.ts ≤ log.ts) : Tracks troop' := by
  have sameCycle : ∀ member : TroopMember,
      (if member.id = id then change member else member).deploymentId = member.deploymentId := by
    intro member
    split
    · exact (frame member).2
    · rfl
  intro member active
  obtain ⟨before, was, rfl⟩ := (mem_active_map sameCycle members).mp active
  rw [readingsOf_append appended]
  split
  · next isMember =>
    rw [(frame before).1, owned, isMember, if_pos rfl, written]
    refine Register.Holds.newest _ fun reading member => ?_
    obtain ⟨other, known, rfl, ownedToo⟩ := mem_readingsOf.mp member
    exact newest other known ownedToo
  · next other =>
    rw [owned, if_neg fun same => other same.symm, List.append_nil]
    exact tracks before was

theorem historical_iff {id : Nat} {now : Zeit} :
    troop.historical id now = true ↔ ∃ log ∈ troop.activePressureLogs, log.troopMemberId = id ∧ now < log.ts := by
  simp [BreathingTroop.historical]

section

variable (tracks : Tracks troop) (distinct : (memberIds troop).Nodup)
include tracks distinct

theorem Tracks.pressed {member : TroopMember}
    (active : member ∈ troop.activeMembers) (messung : Messung) (press : ℚ) (note : Option String) (now : Zeit) :
    Tracks (pressed messung member press note now troop) := by
  have appended := activePressureLogs_pressed distinct active messung press note now
  cases later : troop.historical member.id now with
  | true =>
    obtain ⟨newer, known, owner, behind⟩ := historical_iff.mp later
    refine tracks.older ?_ appended known owner behind.le
    simp [Breathing.pressed, later]
  | false =>
    refine tracks.newest member.id ({ · with currentPress := some press }) (fun _ => ⟨rfl, rfl⟩) (fun _ => rfl) rfl ?_
      appended fun other known owner => ?_
    · simp [Breathing.pressed, later, BreathingTroop.setMember]
    · by_contra behind
      have isLater : troop.historical member.id now = true := historical_iff.mpr ⟨other, known, owner, not_le.mp behind⟩
      rw [later] at isLater
      cases isLater

theorem Tracks.objectiveReached {member : TroopMember}
    (active : member ∈ troop.activeMembers) (untergrenze : ℚ) (messung : Messung) (startPress press : ℚ) {now : Zeit}
    (newest : ∀ log ∈ troop.activePressureLogs, log.troopMemberId = member.id → log.ts ≤ now) :
    Tracks (objectiveReached fl untergrenze messung member startPress press now troop) :=
  tracks.newest member.id (·.atObjective fl untergrenze startPress press now) (fun _ => ⟨rfl, rfl⟩) (fun _ => rfl) rfl
    rfl (activePressureLogs_objective fl distinct active untergrenze messung startPress press now) newest

theorem Tracks.effect
    (effect : Effect fl keys umgebung operation troop troop') (within : WithinCycle operation)
    (newest : ∀ messung, operation = .einsatzziel messung → ∀ log ∈ troop.activePressureLogs,
      log.troopMemberId = messung.troopMemberId → log.ts ≤ messung.ts.getD (umgebung.uhr 0)) : Tracks troop' := by
  have crew {id : Nat} {member : TroopMember} (found : troop.activeMember? id = some member) :
      member ∈ troop.activeMembers ∧ member.id = id :=
    ⟨List.mem_of_find?_eq_some found, (activeMember?_spec found).2.2⟩
  cases effect with
  | start reason userId => exact absurd rfl (within.1 reason userId)
  | redeploy skipped data task location planned preset => exact absurd rfl (within.2 skipped data task location planned preset)
  | druck messung note reason press member pressure inside found =>
    exact tracks.pressed distinct (crew found).1 messung press _ _
  | funk meldung stufe value press id member stage art reported pressure inside named found =>
    exact tracks.pressed distinct (crew found).1 (funkMessung meldung value id) press _ _
  | einsatzziel messung press member startPress pressure inside found =>
    refine tracks.objectiveReached distinct (crew found).1 _ messung startPress press fun log known owner => ?_
    exact newest messung rfl log known (owner.trans (crew found).2)
  | enddruck messung press member =>
    refine tracks.map (fun other => if other.id = member.id then { other with backPress := some press } else other)
      (fun other => ?_) rfl rfl
    split <;> exact ⟨rfl, rfl, rfl, rfl⟩
  | repeated | status | keinKontakt | funkverlust | declared | notfall | notfallAufheben | meldung | ackMaxTime
  | ackWithdraw => exact tracks

end

theorem Unused.started (unused : Unused troop) (issues : List String) (reason : String) (userId : Option Nat) :
    Unused (started fl umgebung issues reason userId troop) := by
  let change : TroopMember → TroopMember := fun member =>
    if member.deploymentId.isNone then member.started umgebung.asuewSettings.rueckzugUntergrenzeBar else member
  have frame : ∀ member, (change member).id = member.id ∧ (change member).deploymentId = member.deploymentId := by
    intro member
    simp only [change, TroopMember.started]
    split
    · split <;> exact ⟨rfl, rfl⟩
    · exact ⟨rfl, rfl⟩
  have cycle : (Breathing.started fl umgebung issues reason userId troop).inCycle = troop.inCycle :=
    inCycle_map change (fun member => (frame member).1) (fun member => (frame member).2) rfl
  constructor
  · unfold BreathingTroop.activePressureLogs
    rw [cycle]
    exact unused.logs
  · intro member active
    obtain ⟨before, was, rfl⟩ := (mem_active_map (fun member => (frame member).2) rfl).mp active
    have full := unused.full before was
    simp only [change, TroopMember.started]
    split
    · split
      · rfl
      · exact full
    · exact full

theorem Unused.tracks (unused : Unused troop) : Tracks troop := by
  intro member active
  have silent : readingsOf troop member.id = [] := by simp [readingsOf, unused.logs]
  rw [silent, unused.full member active]
  exact Register.Holds.empty ..

theorem Kept.begun {stand : Stand} (kept : Kept stand) {umgebung : Umgebung} {reason : Option String}
    {userId : Option Nat} (ready : stand.troop.status = .bereit)
    (begun : Effect fl keys umgebung (.start reason userId) stand.troop troop') : Unused troop' := by
  cases begun with
  | start => exact (kept.unused ready).started _ _ _

end Einsatzcockpit.Breathing

namespace Einsatzcockpit.Breathing

def Messung.reading (messung : Messung) : Option Reading :=
  match messung.pressureBar, messung.ts with
  | .endlich press, some ts => some ⟨messung.troopMemberId, ts, press⟩
  | _, _ => none

def Operation.reading : Operation → Option Reading
  | .druck messung _ _ | .einsatzziel messung => messung.reading
  | .kontrolle check =>
    match Art.ofText? check.art, check.pressureBar, check.troopMemberId, check.ts with
    | some .funk, some (.endlich press), some id, some ts => some ⟨id, ts, press⟩
    | _, _, _, _ => none
  | _ => none

def Operation.objective : Operation → Option Reading
  | .einsatzziel messung => messung.reading
  | _ => none

def Operation.checks (stufe : Stufe) : Operation → Bool
  | .kontrolle check => Stufe.ofText? check.stufe = some stufe && Art.ofText? check.art = some .funk
  | _ => false

def Operation.losesContact : Operation → Bool
  | .kontrolle check => Art.ofText? check.art = some .keinKontakt
  | _ => false

/-- A report with its capture time, and with its member where it has a pressure. -/
def Operation.Timed : Operation → Prop
  | .druck messung _ _ | .einsatzziel messung => messung.ts.isSome
  | .kontrolle check => check.ts.isSome ∧ (Art.ofText? check.art = some .funk → check.troopMemberId.isSome)
  | _ => False

structure SameCycle (begun troop : BreathingTroop) : Prop where
  status : troop.status = begun.status
  entryAt : troop.entryAt = begun.entryAt
  planned : troop.plannedDurationMin = begun.plannedDurationMin
  notfall : troop.notfallAt = begun.notfallAt
  maxAcked : troop.warnMaxTimeAckedAt = begun.warnMaxTimeAckedAt
  withdrawAcked : troop.warnWithdrawAckedAt = begun.warnWithdrawAckedAt
  ackedPress : troop.warnWithdrawAckedPress = begun.warnWithdrawAckedPress

def TroopMember.crew (member : TroopMember) : Nat × Option Nat × Option ℚ :=
  (member.id, member.deploymentId, member.startPress)

def WithdrawTracks (fl : Gleitkomma) (limit : ℚ) (begun troop : BreathingTroop) (done : List Operation) : Prop :=
  ∀ member ∈ troop.activeMembers, ∀ before ∈ begun.activeMembers, before.id = member.id →
    Register.Holds Reading.ts (fun reading => member.startPress.map (objectiveWithdraw fl limit · reading.press))
      before.withdrawPress ((done.filterMap Operation.objective).filter (·.member = member.id)) member.withdrawPress

/-- The troop after the reports `done` of its cycle. -/
structure Replayed (fl : Gleitkomma) (limit : ℚ) (begun troop : BreathingTroop) (done : List Operation) : Prop where
  same : SameCycle begun troop
  crew : troop.members.map TroopMember.crew = begun.members.map TroopMember.crew
  logs : troop.activePressureLogs.map PressureLog.reading = done.filterMap Operation.reading
  controlled : ∀ stufe, troop.controlled stufe = (begun.controlled stufe || done.any (·.checks stufe))
  lost : troop.funkVerlorenAt.isSome = (begun.funkVerlorenAt.isSome || done.any (·.losesContact))
  withdraw : WithdrawTracks fl limit begun troop done

variable {fl : Gleitkomma} {keys : Schluessel} {umgebung : Umgebung} {operation : Operation} {limit : ℚ}
  {begun troop troop' : BreathingTroop} {done : List Operation}

theorem SameCycle.trans (first : SameCycle begun troop) (second : SameCycle troop troop') : SameCycle begun troop' :=
  ⟨second.status.trans first.status, second.entryAt.trans first.entryAt, second.planned.trans first.planned,
    second.notfall.trans first.notfall, second.maxAcked.trans first.maxAcked,
    second.withdrawAcked.trans first.withdrawAcked, second.ackedPress.trans first.ackedPress⟩

theorem SameCycle.pressed (messung : Messung) (member : TroopMember) (press : ℚ) (note : Option String) (now : Zeit) :
    SameCycle troop (pressed messung member press note now troop) := by
  unfold Breathing.pressed
  split <;> exact ⟨rfl, rfl, rfl, rfl, rfl, rfl, rfl⟩

/-- The members after a report, where `change` is what it writes to its own. -/
theorem crew_map {change : TroopMember → TroopMember} (kept : ∀ member, (change member).crew = member.crew)
    (mapped : troop'.members = troop.members.map change) :
    troop'.members.map TroopMember.crew = troop.members.map TroopMember.crew := by
  rw [mapped, List.map_map]
  exact List.map_congr_left fun member _ => kept member

theorem crew_same {member member' : TroopMember} (same : member'.crew = member.crew) :
    member'.id = member.id ∧ member'.deploymentId = member.deploymentId ∧ member'.startPress = member.startPress := by
  simp only [TroopMember.crew, Prod.mk.injEq] at same
  exact same

theorem WithdrawTracks.map (tracks : WithdrawTracks fl limit begun troop done) {change : TroopMember → TroopMember}
    (kept : ∀ member, (change member).crew = member.crew ∧ (change member).withdrawPress = member.withdrawPress)
    (mapped : troop'.members = troop.members.map change) (noObjective : operation.objective = none) :
    WithdrawTracks fl limit begun troop' (done ++ [operation]) := by
  intro member active before was same
  obtain ⟨original, present, rfl⟩ := (mem_active_map (fun member => (crew_same (kept member).1).2.1) mapped).mp active
  obtain ⟨id, -, start⟩ := crew_same (kept original).1
  rw [id] at same
  have held := tracks original present before was same
  simpa [List.filterMap_append, noObjective, id, start, (kept original).2] using held

theorem members_pressed (troop : BreathingTroop) (messung : Messung) (member : TroopMember) (press : ℚ) (note : Option String) (now : Zeit) :
    ∃ change : TroopMember → TroopMember,
      (∀ other, (change other).crew = other.crew ∧ (change other).withdrawPress = other.withdrawPress) ∧
        (pressed messung member press note now troop).members = troop.members.map change := by
  unfold pressed
  split
  · exact ⟨id, fun _ => ⟨rfl, rfl⟩, (List.map_id _).symm⟩
  · refine ⟨fun other => if other.id = member.id then { other with currentPress := some press } else other,
      fun other => ?_, rfl⟩
    dsimp only
    split <;> exact ⟨rfl, rfl⟩

theorem Replayed.pressed (held : Replayed fl limit begun troop done) (distinct : (memberIds troop).Nodup)
    {member : TroopMember} (active : member ∈ troop.activeMembers) (messung : Messung) (press : ℚ)
    (note : Option String) (now : Zeit) (reading : operation.reading = some ⟨member.id, now, press⟩)
    (noObjective : operation.objective = none)
    (kontrollen : List BreathingKontrolle)
    (controlled : ∀ stufe, { troop with kontrollen := kontrollen }.controlled stufe =
      (troop.controlled stufe || operation.checks stufe))
    (contact : operation.losesContact = false) :
    Replayed fl limit begun { Breathing.pressed messung member press note now troop with kontrollen := kontrollen }
      (done ++ [operation]) := by
  obtain ⟨change, kept, mapped⟩ := members_pressed troop messung member press note now
  obtain ⟨-, funk, -, -, -⟩ := pressed_frame troop messung member press note now
  have same : SameCycle begun { Breathing.pressed messung member press note now troop with kontrollen := kontrollen } :=
    have bare := held.same.trans (SameCycle.pressed messung member press note now)
    ⟨bare.status, bare.entryAt, bare.planned, bare.notfall, bare.maxAcked, bare.withdrawAcked, bare.ackedPress⟩
  refine ⟨same, ?_, ?_, fun stufe => ?_, ?_, held.withdraw.map kept mapped noObjective⟩
  · exact (crew_map (fun other => (kept other).1) mapped).trans held.crew
  · have logs := activePressureLogs_pressed distinct active messung press note now
    have read := congrArg (List.map PressureLog.reading) logs
    rw [List.map_append, held.logs] at read
    show (Breathing.pressed messung member press note now troop).activePressureLogs.map PressureLog.reading = _
    rw [read, List.filterMap_append]
    simp [reading, PressureLog.reading, pressureLog]
  · have before := held.controlled stufe
    have after : { Breathing.pressed messung member press note now troop with kontrollen := kontrollen }.controlled stufe =
        { troop with kontrollen := kontrollen }.controlled stufe := rfl
    rw [after, controlled, before, List.any_append, List.any_cons, List.any_nil, Bool.or_false, Bool.or_assoc]
  · show (Breathing.pressed messung member press note now troop).funkVerlorenAt.isSome = _
    rw [funk, held.lost]
    simp [contact]

theorem objective_reading {reading : Reading} (objective : operation.objective = some reading) :
    operation.reading = some reading := by
  cases operation with
  | einsatzziel messung => exact objective
  | start | status | redeploy | druck | kontrolle | enddruck | funkverlust | notfall | notfallAufheben | meldung | ack =>
    cases objective

theorem Replayed.objectives_logged (held : Replayed fl limit begun troop done) {reading : Reading}
    (known : reading ∈ done.filterMap Operation.objective) :
    ∃ log ∈ troop.activePressureLogs, log.reading = reading := by
  obtain ⟨operation, before, isObjective⟩ := List.mem_filterMap.mp known
  have logged : reading ∈ troop.activePressureLogs.map PressureLog.reading := by
    rw [held.logs]
    exact List.mem_filterMap.mpr ⟨operation, before, objective_reading isObjective⟩
  exact List.mem_map.mp logged

theorem Replayed.objectiveReached (held : Replayed fl limit begun troop done) (distinct : (memberIds troop).Nodup)
    {member : TroopMember} (active : member ∈ troop.activeMembers) {startPress : ℚ}
    (full : member.startPress = some startPress) (messung : Messung) (press : ℚ) (now : Zeit)
    (objective : operation.objective = some ⟨member.id, now, press⟩) (checks : ∀ stufe, operation.checks stufe = false)
    (contact : operation.losesContact = false)
    (newest : ∀ log ∈ troop.activePressureLogs, log.troopMemberId = member.id → log.ts ≤ now) :
    Replayed fl limit begun (objectiveReached fl limit messung member startPress press now troop)
      (done ++ [operation]) := by
  let change : TroopMember → TroopMember := fun other =>
    if other.id = member.id then other.atObjective fl limit startPress press now else other
  have kept : ∀ other, (change other).crew = other.crew := by
    intro other
    simp only [change]
    split <;> rfl
  have mapped : (Breathing.objectiveReached fl limit messung member startPress press now troop).members =
      troop.members.map change := rfl
  refine ⟨held.same.trans ⟨rfl, rfl, rfl, rfl, rfl, rfl, rfl⟩, (crew_map kept mapped).trans held.crew, ?_,
    fun stufe => ?_, ?_, ?_⟩
  · have logs := activePressureLogs_objective fl distinct active limit messung startPress press now
    rw [logs, List.map_append, held.logs, List.filterMap_append]
    simp [objective_reading objective, PressureLog.reading, pressureLog]
  · show troop.controlled stufe = _
    simpa [checks] using held.controlled stufe
  · show troop.funkVerlorenAt.isSome = _
    simpa [contact] using held.lost
  · intro other isActive before was same
    obtain ⟨original, present, rfl⟩ := (mem_active_map (fun other => (crew_same (kept other)).2.1) mapped).mp isActive
    obtain ⟨id, -, start⟩ := crew_same (kept original)
    rw [id] at same
    have single : [operation].filterMap Operation.objective = [⟨member.id, now, press⟩] := by
      rw [List.filterMap_cons_some objective, List.filterMap_nil]
    rw [id, start, List.filterMap_append, List.filter_append, single]
    by_cases own : original.id = member.id
    · have isMember : original = member :=
        List.inj_on_of_nodup_map distinct (mem_activeMembers.mp present).1 (mem_activeMembers.mp active).1 own
      have written : (change original).withdrawPress =
          original.startPress.map (objectiveWithdraw fl limit · press) := by
        simp [change, TroopMember.atObjective, isMember, full]
      rw [written, List.filter_cons_of_pos (by simp [own]), List.filter_nil]
      refine Register.Holds.newest _ fun reading known => ?_
      obtain ⟨isObjective, owner⟩ := List.mem_filter.mp known
      obtain ⟨log, logged, rfl⟩ := held.objectives_logged isObjective
      exact newest log logged ((of_decide_eq_true owner).trans own)
    · rw [List.filter_cons_of_neg (by simpa using fun same : member.id = original.id => own same.symm),
        List.filter_nil, List.append_nil]
      have untouched : (change original).withdrawPress = original.withdrawPress := by simp only [change, if_neg own]
      rw [untouched]
      exact held.withdraw original present before was same

theorem reading_messung {messung : Messung} {press : ℚ} (pressure : validatePressure messung.pressureBar = .ok press)
    (captured : messung.ts.isSome) (clock : Zeit) :
    messung.reading = some ⟨messung.troopMemberId, messung.ts.getD clock, press⟩ := by
  obtain ⟨ts, isTs⟩ := Option.isSome_iff_exists.mp captured
  simp [Messung.reading, (validatePressure_ok pressure).1, isTs]

theorem Replayed.keinKontakt (held : Replayed fl limit begun troop done) {check : Kontrollmeldung} {stufe : Stufe}
    (art : Art.ofText? check.art = some .keinKontakt) :
    Replayed fl limit begun (keinKontakt umgebung check stufe troop) (done ++ [.kontrolle check]) := by
  refine ⟨held.same.trans ⟨rfl, rfl, rfl, rfl, rfl, rfl, rfl⟩, held.crew, ?_, fun other => ?_, ?_, ?_⟩
  · show troop.activePressureLogs.map PressureLog.reading = _
    rw [held.logs, List.filterMap_append]
    simp [Operation.reading, art]
  · rw [activeKontrollen_keinKontakt, held.controlled]
    simp [Operation.checks, art]
  · simp [Breathing.keinKontakt, Operation.losesContact, art]
  · exact held.withdraw.map (fun _ => ⟨rfl, rfl⟩) (List.map_id _).symm rfl

theorem Replayed.effect (held : Replayed fl limit begun troop done) (distinct : (memberIds troop).Nodup)
    (effect : Effect fl keys umgebung operation troop troop') (timed : operation.Timed)
    (sameLimit : (umgebung.asuewSettings.rueckzugUntergrenzeBar : ℚ) = limit)
    (newest : ∀ messung, operation = .einsatzziel messung → ∀ log ∈ troop.activePressureLogs,
      log.troopMemberId = messung.troopMemberId → log.ts ≤ messung.ts.getD (umgebung.uhr 0)) :
    Replayed fl limit begun troop' (done ++ [operation]) := by
  have crew {id : Nat} {member : TroopMember} (found : troop.activeMember? id = some member) :
      member ∈ troop.activeMembers ∧ member.id = id :=
    ⟨List.mem_of_find?_eq_some found, (activeMember?_spec found).2.2⟩
  cases effect with
  | druck messung note reason press member pressure inside found =>
    let logged := Breathing.pressed messung member press (correctedNote (strip (reason.getD "")) note)
      (messung.ts.getD (umgebung.uhr 0)) troop
    have kontrollen : logged.kontrollen = troop.kontrollen := (pressed_frame troop ..).2.2.2.2
    refine held.pressed distinct (crew found).1 messung press _ _ ?_ rfl logged.kontrollen (fun stufe => ?_) rfl
    · rw [(crew found).2]
      exact reading_messung pressure timed _
    · rw [kontrollen]
      exact (Bool.or_false _).symm
  | funk check stufe value press id member stage art reported pressure inside named found =>
    let logged := Breathing.pressed (funkMessung check value id) member press
      (correctedNote (strip "") (funkNote check stufe)) (check.ts.getD (umgebung.uhr 0)) troop
    have kontrollen : logged.kontrollen = troop.kontrollen := (pressed_frame troop ..).2.2.2.2
    obtain ⟨ts, isTs⟩ := Option.isSome_iff_exists.mp timed.1
    obtain ⟨id', isNamed⟩ := Option.isSome_iff_exists.mp (timed.2 art)
    obtain rfl : id' = id := by simpa [isNamed] using named
    refine held.pressed distinct (crew found).1 (funkMessung check value id') press _ _ ?_ rfl _ (fun other => ?_) ?_
    · simp [Operation.reading, art, reported, (validatePressure_ok pressure).1, isNamed, isTs, (crew found).2]
    · show (List.filter _ (logged.kontrollen ++ _)).any _ = _
      rw [kontrollen]
      simp [BreathingTroop.controlled, BreathingTroop.activeKontrollen, kontrolle, List.filter_append,
        Operation.checks, stage, art]
    · simp [Operation.losesContact, art]
  | keinKontakt check stufe stage art inside => exact held.keinKontakt art
  | einsatzziel messung press member startPress pressure inside found full =>
    subst sameLimit
    refine held.objectiveReached distinct (crew found).1 full messung press _ ?_ (fun _ => rfl) rfl
      fun log known owner => newest messung rfl log known (owner.trans (crew found).2)
    rw [(crew found).2]
    exact reading_messung pressure timed _
  | start | repeated | status | redeploy | enddruck | funkverlust | declared | notfall | notfallAufheben | meldung
  | ackMaxTime | ackWithdraw => exact timed.elim

end Einsatzcockpit.Breathing
