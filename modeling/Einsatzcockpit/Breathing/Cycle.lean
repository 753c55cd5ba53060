import Einsatzcockpit.Lib.Run
import Einsatzcockpit.Breathing.Effect

namespace Einsatzcockpit.Breathing

/-- The moves of the status: by a start, along the allowed transitions, and by
a redeployment. -/
inductive StatusMove : Operation → TroopStatus → TroopStatus → Prop where
  | stay (operation status) : StatusMove operation status status
  | start (reason userId) : StatusMove (.start reason userId) .bereit .imEinsatz
  | allowed (newStatus ts status status') (allowed : status' ∈ allowedTroopTransitions status) :
      StatusMove (.status newStatus ts) status status'
  | redeploy (skipped data task location planned preset) :
      StatusMove (.redeploy skipped data task location planned preset) .erholt .bereit

/-- The entry time is set by a start that finds none, and leaves the troop only
with the archived cycle. -/
inductive EntryMove (troop troop' : BreathingTroop) : Operation → Prop where
  | keep (operation) (entry : troop'.entryAt = troop.entryAt) (archive : troop'.deployments = troop.deployments) :
      EntryMove troop troop' operation
  | set (reason userId entry) (unset : troop.entryAt = none) (entered : troop'.entryAt = some entry)
      (archive : troop'.deployments = troop.deployments) : EntryMove troop troop' (.start reason userId)
  | archive (skipped data task location planned preset deployment) (unset : troop'.entryAt = none)
      (archive : troop'.deployments = troop.deployments ++ [deployment])
      (entry : deployment.entryAt = troop.entryAt) :
      EntryMove troop troop' (.redeploy skipped data task location planned preset)

def pressures (troop : BreathingTroop) : List (Option ℚ) :=
  troop.activeMembers.map (·.currentPress)

structure CycleStep (operation : Operation) (troop troop' : BreathingTroop) : Prop where
  status : StatusMove operation troop.status troop'.status
  entry : EntryMove troop troop' operation
  pressures : ∀ reason userId, operation = .start reason userId → troop.entryAt.isSome →
    pressures troop' = pressures troop

/-- The state of a cycle: it has its entry time exactly from the start on, and
its return time once it is back. -/
structure CycleOk (troop : BreathingTroop) : Prop where
  entered : troop.entryAt = none ↔ troop.status = .bereit
  back : troop.status = .zurueck ∨ troop.status = .erholt → troop.backAt.isSome
  archived : ∀ deployment ∈ troop.deployments, deployment.entryAt.isSome ∧ deployment.backAt.isSome

def StartRefused (fl : Gleitkomma) (umgebung : Umgebung) (reason : Option String) (troop : BreathingTroop) : Prop :=
  troop.activeMembers.length < 2 ∨ checkStartReadiness fl umgebung troop ≠ [] ∧ strip (reason.getD "") = ""

def StartsReady (fl : Gleitkomma) (stand : Stand) (request : Request) : Prop :=
  ∀ reason userId, request.operation = .start reason userId →
    stand.troop.status = .bereit ∨ StartRefused fl request.umgebung reason stand.troop

variable {fl : Gleitkomma} {keys : Schluessel} {umgebung : Umgebung} {operation : Operation}
  {troop troop' : BreathingTroop}

theorem CycleStep.unchanged (operation : Operation) (troop : BreathingTroop) : CycleStep operation troop troop :=
  ⟨.stay _ _, .keep _ rfl rfl, fun _ _ _ _ => rfl⟩

theorem CycleStep.quiet (status : troop'.status = troop.status) (entry : troop'.entryAt = troop.entryAt)
    (archive : troop'.deployments = troop.deployments) (noStart : ∀ reason userId, operation ≠ .start reason userId) :
    CycleStep operation troop troop' :=
  ⟨status ▸ .stay _ _, .keep _ entry archive, fun reason userId isStart => absurd isStart (noStart reason userId)⟩

theorem CycleOk.quiet (held : CycleOk troop) (status : troop'.status = troop.status)
    (entry : troop'.entryAt = troop.entryAt) (back : troop'.backAt = troop.backAt)
    (archive : troop'.deployments = troop.deployments) : CycleOk troop' := by
  refine ⟨?_, ?_, ?_⟩
  · rw [status, entry]
    exact held.entered
  · rw [status, back]
    exact held.back
  · rw [archive]
    exact held.archived

theorem pressed_times (troop : BreathingTroop) (messung : Messung) (member : TroopMember) (press : ℚ) (note : Option String) (now : Zeit) :
    (pressed messung member press note now troop).status = troop.status ∧
      (pressed messung member press note now troop).entryAt = troop.entryAt ∧
      (pressed messung member press note now troop).backAt = troop.backAt ∧
      (pressed messung member press note now troop).deployments = troop.deployments := by
  unfold pressed
  split <;> exact ⟨rfl, rfl, rfl, rfl⟩

theorem CycleOk.moved (held : CycleOk troop) {status : TroopStatus} (now : Zeit)
    (allowed : status ∈ allowedTroopTransitions troop.status) : CycleOk (moved status now troop) := by
  have started : troop.status ≠ .bereit := by
    intro idle
    simp [idle, allowedTroopTransitions] at allowed
  have left : status ≠ .bereit := by
    intro idle
    cases was : troop.status <;> simp [was, idle, allowedTroopTransitions] at allowed
  refine ⟨?_, ?_, held.archived⟩
  · have entered : troop.entryAt ≠ none := fun none => started (held.entered.mp none)
    exact ⟨fun none => absurd none entered, fun idle => absurd idle left⟩
  · rintro (isBack | isBack)
    · obtain rfl : status = .zurueck := isBack
      rfl
    · obtain rfl : status = .erholt := isBack
      have was : troop.status = .zurueck := by
        cases was : troop.status <;> simp [was, allowedTroopTransitions] at allowed
        rfl
      simpa [Breathing.moved] using held.back (Or.inl was)

theorem Effect.cycle (effect : Effect fl keys umgebung operation troop troop') (held : CycleOk troop)
    (ready : ∀ reason userId, operation = .start reason userId → troop.status = .bereit) :
    CycleStep operation troop troop' ∧ CycleOk troop' := by
  cases effect with
  | start reason userId =>
    have idle := ready reason userId rfl
    have unset := held.entered.mpr idle
    refine ⟨⟨?_, .set _ _ _ unset rfl rfl, fun _ _ _ entered => by simp [unset] at entered⟩, ?_, ?_, held.archived⟩
    · rw [idle]
      exact .start _ _
    · simp [started]
    · simp [started]
  | repeated => exact ⟨.unchanged _ _, held⟩
  | status newStatus ts status parsed allowed =>
    exact ⟨⟨.allowed _ _ _ _ allowed, .keep _ rfl rfl, fun _ _ isStart => by cases isStart⟩, held.moved _ allowed⟩
  | redeploy skipped data task location planned preset filled erholt =>
    refine ⟨⟨?_, .archive _ _ _ _ _ _ (archived keys.deployment troop) rfl rfl rfl,
      fun _ _ isStart => by cases isStart⟩, by simp [redeployed], by simp [redeployed], ?_⟩
    · rw [erholt]
      exact .redeploy _ _ _ _ _ _
    · intro deployment member
      rcases List.mem_append.mp member with old | new
      · exact held.archived deployment old
      · obtain rfl := List.mem_singleton.mp new
        have entered : troop.entryAt ≠ none := fun none => by simp [held.entered.mp none] at erholt
        exact ⟨Option.isSome_iff_ne_none.mpr entered, held.back (Or.inr erholt)⟩
  | druck messung note reason press member =>
    obtain ⟨status, entry, back, archive⟩ := pressed_times troop messung member press
      (correctedNote (strip (reason.getD "")) note) (messung.ts.getD (umgebung.uhr 0))
    exact ⟨.quiet status entry archive (fun _ _ => by simp), held.quiet status entry back archive⟩
  | funk meldung stufe value press id member =>
    obtain ⟨status, entry, back, archive⟩ := pressed_times troop (funkMessung meldung value id) member press
      (correctedNote (strip "") (funkNote meldung stufe)) (meldung.ts.getD (umgebung.uhr 0))
    exact ⟨.quiet status entry archive (fun _ _ => by simp), held.quiet status entry back archive⟩
  | keinKontakt | einsatzziel | enddruck | funkverlust | declared | notfall | notfallAufheben | meldung | ackMaxTime
  | ackWithdraw => exact ⟨.quiet rfl rfl rfl (fun _ _ => by simp), held.quiet rfl rfl rfl rfl⟩

theorem createTroop_cycle {data : TroopData} (ok : createTroop keys data = .ok troop) : CycleOk troop := by
  unfold createTroop at ok
  split at ok
  · cases ok
  · cases ok
    exact ⟨by simp, by simp, by simp⟩

theorem Effect.not_refused {reason : Option String} {userId : Option Nat}
    (effect : Effect fl keys umgebung (.start reason userId) troop troop') :
    ¬ StartRefused fl umgebung reason troop := by
  cases effect with
  | start _ _ crew admitted =>
    rintro (few | ⟨issues, silent⟩)
    · omega
    · rcases admitted with clear | given
      · exact issues clear
      · exact given silent

variable (fl) in
theorem step_cycle {stand : Stand} {request : Request} (held : CycleOk stand.troop)
    (ready : StartsReady fl stand request) :
    CycleStep request.operation stand.troop (step fl stand request).troop ∧ CycleOk (step fl stand request).troop := by
  rcases step_effect stand request with ⟨same, _⟩ | effect
  · rw [same]
    exact ⟨.unchanged _ _, held⟩
  · refine effect.cycle held fun reason userId isStart => ?_
    rcases ready reason userId isStart with idle | refused
    · exact idle
    · rw [isStart] at effect
      exact absurd refused effect.not_refused

/-- In every run from a new troop in which each start meets a ready troop, or
one it is refused for, the cycle is in order in every state, and every further
such request moves it as the state machine allows. -/
theorem troop_stateMachine (fl : Gleitkomma) (keys : Schluessel) (data : TroopData) (troop : BreathingTroop)
    (requests : List Request) (created : createTroop keys data = .ok troop)
    (ready : Transition.Meets (step fl) (StartsReady fl) (born keys troop) requests) :
    let stand := Transition.run (step fl) (born keys troop) requests
    CycleOk stand.troop ∧ ∀ request, StartsReady fl stand request →
      CycleStep request.operation stand.troop (step fl stand request).troop := by
  intro stand
  have held : CycleOk stand.troop :=
    Transition.run_induction (fun stand => CycleOk stand.troop)
      (fun _ _ held ready => (step_cycle fl held ready).2) (createTroop_cycle created) ready
  exact ⟨held, fun request ready => (step_cycle fl held ready).1⟩

def sampleData : TroopData where
  id := 1
  incidentId := 1
  name := "Trupp 1"
  isSicherheitstrupp := true
  plannedDurationMin := some 30
  membersData := [{ memberId := some 1, startPress := some (.endlich 300) },
    { memberId := some 2, startPress := some (.endlich 300) }]

def sampleTroop : BreathingTroop where
  id := 1
  incidentId := 1
  name := "Trupp 1"
  isSicherheitstrupp := true
  plannedDurationMin := some 30
  members := [{ id := 1, memberId := some 1, startPress := some 300, currentPress := some 300 },
    { id := 2, memberId := some 2, startPress := some 300, currentPress := some 300 }]

def requestAt (now : Zeit) (operation : Operation) : Request where
  umgebung := { uhr := fun _ => now }
  operation := operation

def sampleRequests : List Request :=
  [requestAt 0 (.start none none),
    requestAt (minuten 1) (.druck { troopMemberId := 1, pressureBar := .endlich 200, ts := some (minuten 1) } none none)]

theorem troop_stateMachine_started :
    CycleOk (Transition.run (step exakt) (born ⟨1, 1⟩ sampleTroop) sampleRequests).troop :=
  (troop_stateMachine exakt ⟨1, 1⟩ sampleData sampleTroop sampleRequests (by rfl)
    ⟨fun _ _ _ => Or.inl (by decide), fun _ _ isStart => by simp [requestAt] at isStart, trivial⟩).1

/-- A second start of the troop inside sets a new entry time and a full bottle. -/
theorem troop_restarted :
    ¬ CycleStep (.start none none) (Transition.run (step exakt) (born ⟨1, 1⟩ sampleTroop) sampleRequests).troop
      (step exakt (Transition.run (step exakt) (born ⟨1, 1⟩ sampleTroop) sampleRequests)
        (requestAt (minuten 10) (.start none none))).troop := by
  intro allowed
  exact absurd (allowed.pressures none none rfl (by decide +kernel)) (by decide +kernel)

end Einsatzcockpit.Breathing
