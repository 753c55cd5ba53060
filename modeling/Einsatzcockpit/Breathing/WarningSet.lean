import Einsatzcockpit.Lib.Run
import Einsatzcockpit.Breathing.Effect

namespace Einsatzcockpit.Breathing

def memberIds (troop : BreathingTroop) : List Nat :=
  troop.members.map (·.id)

/-- The keys of the crews are distinct, and the next ones are fresh. -/
structure Keyed (stand : Stand) : Prop where
  distinct : (memberIds stand.troop).Nodup
  fresh : ∀ id ∈ memberIds stand.troop, id < stand.next.member

variable {fl : Gleitkomma} {keys : Schluessel} {umgebung : Umgebung} {operation : Operation}
  {troop troop' : BreathingTroop}

theorem mem_activeMembers {member : TroopMember} :
    member ∈ troop.activeMembers ↔ member ∈ troop.members ∧ member.deploymentId = none := by
  simp [BreathingTroop.activeMembers]

theorem activeMember?_spec {id : Nat} {member : TroopMember} (found : troop.activeMember? id = some member) :
    member ∈ troop.members ∧ member.deploymentId = none ∧ member.id = id := by
  have active := mem_activeMembers.mp (List.mem_of_find?_eq_some found)
  exact ⟨active.1, active.2, by simpa using List.find?_some found⟩

theorem memberIds_map {change : TroopMember → TroopMember} (kept : ∀ member, (change member).id = member.id)
    (members : List TroopMember) : (members.map change).map (·.id) = members.map (·.id) := by
  rw [List.map_map]
  exact List.map_congr_left fun member _ => kept member

theorem memberIds_setMember (troop : BreathingTroop) (id : Nat) {change : TroopMember → TroopMember}
    (kept : ∀ member, (change member).id = member.id) : memberIds (troop.setMember id change) = memberIds troop := by
  refine memberIds_map (fun member => ?_) troop.members
  split
  · exact kept member
  · rfl

theorem memberIds_pressed (messung : Messung) (member : TroopMember) (press : ℚ) (note : Option String) (now : Zeit) :
    memberIds (pressed messung member press note now troop) = memberIds troop := by
  unfold pressed
  split
  · rfl
  · exact memberIds_setMember troop member.id fun _ => rfl

theorem started_id (untergrenze : ℚ) (member : TroopMember) : (member.started untergrenze).id = member.id := by
  unfold TroopMember.started
  split <;> rfl

theorem archive_id (deploymentId : Nat) (member : TroopMember) : (member.archive deploymentId).id = member.id := by
  unfold TroopMember.archive
  split <;> rfl

theorem liveMembers_ids (firstId : Nat) (data : List CheckedMember) :
    (liveMembers firstId data).map (·.id) = List.range' firstId data.length := by
  induction data generalizing firstId with
  | nil => rfl
  | cons head rest ih => simp [liveMembers, ih, List.range']

theorem Effect.memberIds (effect : Effect fl keys umgebung operation troop troop') :
    Breathing.memberIds troop' = Breathing.memberIds troop ∨
      ∃ n, Breathing.memberIds troop' = Breathing.memberIds troop ++ List.range' keys.member n := by
  cases effect with
  | start =>
    refine Or.inl (memberIds_map (fun member => ?_) troop.members)
    split
    · exact started_id _ member
    · rfl
  | redeploy _ _ _ _ _ _ filled =>
    refine Or.inr ⟨filled.length, ?_⟩
    simp only [Breathing.memberIds, redeployed, List.map_append, liveMembers_ids]
    rw [memberIds_map (archive_id keys.deployment)]
  | druck => exact Or.inl (memberIds_pressed ..)
  | funk => exact Or.inl (memberIds_pressed ..)
  | einsatzziel messung press member =>
    exact Or.inl (memberIds_setMember troop member.id fun _ => rfl)
  | enddruck messung press member => exact Or.inl (memberIds_setMember troop member.id fun _ => rfl)
  | repeated | status | keinKontakt | funkverlust | declared | notfall | notfallAufheben | meldung | ackMaxTime
  | ackWithdraw => exact Or.inl rfl

theorem memberIds_length (troop : BreathingTroop) : (memberIds troop).length = troop.members.length :=
  List.length_map _

variable (fl) in
theorem step_keyed {stand : Stand} (keyed : Keyed stand) (request : Request) : Keyed (step fl stand request) := by
  cases result : apply fl (stand.next.skip request.operation.skipped) request stand.troop with
  | error fehler =>
    have same : step fl stand request = stand := by simp [step, result]
    rw [same]
    exact keyed
  | ok troop' =>
    have effect := apply_effect result
    let used := stand.next.skip request.operation.skipped
    have next : (step fl stand request).next.member =
        used.member + (troop'.members.length - stand.troop.members.length) := by
      simp [step, result, used, Schluessel.after]
    have after : (step fl stand request).troop = troop' := by simp [step, result]
    have old : ∀ id ∈ memberIds stand.troop, id < used.member := fun id member =>
      (keyed.fresh id member).trans_le (Nat.le_add_right _ _)
    rcases effect.memberIds with same | ⟨n, grown⟩
    · refine ⟨?_, fun id member => ?_⟩
      · rw [after, same]
        exact keyed.distinct
      · rw [after, same] at member
        rw [next]
        exact (old id member).trans_le (Nat.le_add_right _ _)
    · have length : troop'.members.length - stand.troop.members.length = n := by
        have lengths := congrArg List.length grown
        rw [List.length_append, memberIds_length, memberIds_length, List.length_range'] at lengths
        omega
      refine ⟨?_, fun id member => ?_⟩
      · rw [after, grown]
        refine List.nodup_append.mpr ⟨keyed.distinct, List.nodup_range', fun id known id' new => ?_⟩
        have above : used.member ≤ id' := (List.mem_range'_1.mp new).1
        have below := old id known
        omega
      · rw [after, grown] at member
        rw [next, length]
        rcases List.mem_append.mp member with known | new
        · exact (old id known).trans_le (Nat.le_add_right _ _)
        · exact (List.mem_range'_1.mp new).2

theorem createTroop_keyed {data : TroopData} (ok : createTroop keys data = .ok troop) : Keyed (born keys troop) := by
  unfold createTroop at ok
  split at ok
  · cases ok
  · next filled valid =>
    cases ok
    have ids := liveMembers_ids keys.member filled
    have length : (liveMembers keys.member filled).length = filled.length := by
      simpa using congrArg List.length ids
    refine ⟨?_, fun id member => ?_⟩
    · simp only [memberIds, born, ids]
      exact List.nodup_range'
    · simp only [memberIds, born, ids] at member
      simp only [born, length]
      exact (List.mem_range'_1.mp member).2

end Einsatzcockpit.Breathing

namespace Einsatzcockpit.Breathing

def Measured (troop : BreathingTroop) : Prop :=
  ∀ member ∈ troop.members, member.withdrawPress.isSome → member.startPress.isSome

variable {fl : Gleitkomma} {keys : Schluessel} {umgebung : Umgebung} {operation : Operation}
  {troop troop' : BreathingTroop}

end Einsatzcockpit.Breathing

namespace Einsatzcockpit.Breathing

variable {fl : Gleitkomma} {troop troop' : BreathingTroop} {entry now : Zeit} {warning warning' : Warnung}

theorem elapsed_iff {time : Zeit} : now - entry ≥ time ↔ entry + time ≤ now :=
  le_sub_iff_add_le'

theorem mem_stageWarning {dueSeconds : Option Nat} {stufe : Stufe} :
    warning ∈ stageWarning troop entry now dueSeconds warning' stufe ↔
      warning = warning' ∧ ∃ due, dueSeconds = some due ∧ due ≠ 0 ∧ entry + sekunden due ≤ now ∧
        troop.controlled stufe = false ∧ troop.reported (entry + sekunden due) = false := by
  unfold stageWarning
  cases dueSeconds with
  | none => simp
  | some due =>
    dsimp only
    by_cases elapsed : due ≠ 0 ∧ now - entry ≥ sekunden due
    · rw [if_pos elapsed]
      have reached : entry + sekunden due ≤ now := elapsed_iff.mp elapsed.2
      by_cases done : (troop.controlled stufe || troop.reported (entry + sekunden due)) = true
      · rw [if_pos done]
        simp only [List.not_mem_nil, false_iff, not_and, not_exists]
        rintro - other same - - quiet silent
        cases same
        simp [quiet, silent] at done
      · rw [if_neg done]
        simp only [Bool.or_eq_true, not_or, Bool.not_eq_true] at done
        simp [elapsed.1, reached, done]
    · rw [if_neg elapsed]
      simp only [List.not_mem_nil, false_iff, not_and, not_exists]
      rintro - other same positive reached
      cases same
      exact absurd ⟨positive, elapsed_iff.mpr reached⟩ elapsed

theorem mem_maxWarning :
    warning ∈ maxWarning troop entry now ↔
      warning = .maxExceeded ∧ ∃ most, troop.maxSeconds = some most ∧ most ≠ 0 ∧ entry + sekunden most ≤ now ∧
        troop.warnMaxTimeAckedAt = none := by
  unfold maxWarning
  cases troop.maxSeconds with
  | none => simp
  | some most =>
    dsimp only
    by_cases elapsed : most ≠ 0 ∧ now - entry ≥ sekunden most
    · rw [if_pos elapsed]
      have reached : entry + sekunden most ≤ now := elapsed_iff.mp elapsed.2
      cases troop.warnMaxTimeAckedAt <;> simp [elapsed.1, reached]
    · rw [if_neg elapsed]
      simp only [List.not_mem_nil, false_iff, not_and, not_exists]
      rintro - other same positive reached
      cases same
      exact absurd ⟨positive, elapsed_iff.mpr reached⟩ elapsed

theorem mem_getTimeWarnings :
    warning ∈ getTimeWarnings troop now ↔ ∃ entry, troop.entryAt = some entry ∧ troop.status.inside = true ∧
      (warning ∈ maxWarning troop entry now ∨
        warning ∈ stageWarning troop entry now troop.twoThirdSeconds .twoThirdDue .twoThird ∨
        warning ∈ stageWarning troop entry now troop.oneThirdSeconds .oneThirdDue .oneThird) := by
  unfold getTimeWarnings
  cases troop.entryAt with
  | none => simp
  | some entry =>
    by_cases inside : troop.status.inside = true
    · simp [inside]
    · simp [inside]

theorem mem_checkTroopWarnings :
    warning ∈ checkTroopWarnings fl troop now ↔
      warning ∈ safetyWarning troop ∨ warning = .withdraw ∧ withdrawDue fl troop = true ∨
        warning ∈ getTimeWarnings troop now := by
  unfold checkTroopWarnings
  cases withdrawDue fl troop <;> simp

theorem mem_safetyWarning :
    warning ∈ safetyWarning troop ↔
      warning = .notfall ∧ troop.notfallAt.isSome ∨
        warning = .funkVerloren ∧ troop.notfallAt = none ∧ troop.funkVerlorenAt.isSome := by
  unfold safetyWarning
  cases troop.notfallAt <;> cases troop.funkVerlorenAt <;> simp

/-- The stage needs no further check: it was made, or a pressure came in after
it was due. -/
def settled (troop : BreathingTroop) (stufe : Stufe) (dueAt : Zeit) : Bool :=
  troop.controlled stufe || troop.reported dueAt

def MaxDue (troop : BreathingTroop) (now : Zeit) : Prop :=
  ∃ entry most, troop.entryAt = some entry ∧ troop.status.inside = true ∧ troop.maxSeconds = some most ∧ most ≠ 0 ∧
    entry + sekunden most ≤ now ∧ troop.warnMaxTimeAckedAt = none

def StageDue (troop : BreathingTroop) (stufe : Stufe) (now : Zeit) : Prop :=
  ∃ entry due, troop.entryAt = some entry ∧ troop.status.inside = true ∧ dueSeconds troop stufe = some due ∧ due ≠ 0 ∧
    entry + sekunden due ≤ now ∧ settled troop stufe (entry + sekunden due) = false

section Kinds

variable (fl troop now)

theorem notfall_mem : .notfall ∈ checkTroopWarnings fl troop now ↔ troop.notfallAt.isSome := by
  simp [mem_checkTroopWarnings, mem_safetyWarning, mem_getTimeWarnings, mem_maxWarning, mem_stageWarning]

theorem funkVerloren_mem :
    .funkVerloren ∈ checkTroopWarnings fl troop now ↔ troop.notfallAt = none ∧ troop.funkVerlorenAt.isSome := by
  simp [mem_checkTroopWarnings, mem_safetyWarning, mem_getTimeWarnings, mem_maxWarning, mem_stageWarning]

theorem withdraw_mem : .withdraw ∈ checkTroopWarnings fl troop now ↔ withdrawDue fl troop = true := by
  simp [mem_checkTroopWarnings, mem_safetyWarning, mem_getTimeWarnings, mem_maxWarning, mem_stageWarning]

theorem maxExceeded_mem : .maxExceeded ∈ checkTroopWarnings fl troop now ↔ MaxDue troop now := by
  simp only [mem_checkTroopWarnings, mem_safetyWarning, mem_getTimeWarnings, mem_maxWarning, mem_stageWarning, MaxDue]
  simp

theorem twoThirdDue_mem : .twoThirdDue ∈ checkTroopWarnings fl troop now ↔ StageDue troop .twoThird now := by
  simp only [mem_checkTroopWarnings, mem_safetyWarning, mem_getTimeWarnings, mem_maxWarning, mem_stageWarning, StageDue,
    dueSeconds, settled, Bool.or_eq_false_iff]
  simp

theorem oneThirdDue_mem : .oneThirdDue ∈ checkTroopWarnings fl troop now ↔ StageDue troop .oneThird now := by
  simp only [mem_checkTroopWarnings, mem_safetyWarning, mem_getTimeWarnings, mem_maxWarning, mem_stageWarning, StageDue,
    dueSeconds, settled, Bool.or_eq_false_iff]
  simp

end Kinds

end Einsatzcockpit.Breathing
