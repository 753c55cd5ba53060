import Einsatzcockpit.Breathing.Logs

namespace Einsatzcockpit.Breathing

def Operation.capturedAt : Operation → Option Zeit
  | status _ ts | funkverlust _ ts | notfall _ ts | ack _ ts => ts
  | kontrolle check => check.ts
  | _ => none

def Untouched (fl : Gleitkomma) (troop troop' : BreathingTroop) : Prop :=
  troop'.status = troop.status ∧
    ∀ now warning, warning ∈ checkTroopWarnings fl troop' now ↔ warning ∈ checkTroopWarnings fl troop now

def Alarmed (troop : BreathingTroop) : Prop :=
  troop.notfallAt.isSome ∨ troop.funkVerlorenAt.isSome

/-- A radio check that the guards let through, with the member and the pressure
it reports. -/
structure Funkkontrolle (meldung : Kontrollmeldung) (troop : BreathingTroop) (stufe : Stufe) (value : Zahl)
    (press : ℚ) (id : Nat) (member : TroopMember) : Prop where
  stage : Stufe.ofText? meldung.stufe = some stufe
  art : Art.ofText? meldung.art = some .funk
  inside : troop.status.inside = true
  reported : meldung.pressureBar = some value
  pressure : validatePressure value = .ok press
  named : (meldung.troopMemberId <|> (lowestMember troop).map (·.id)) = some id
  found : troop.activeMember? id = some member

/-- The check of the stage changes no deadline of the cycle entered at `entry`. -/
def StageSettled (troop : BreathingTroop) (entry : Zeit) (stufe : Stufe) : Prop :=
  ∀ due, dueSeconds troop stufe = some due → due ≠ 0 → settled troop stufe (entry + sekunden due) = true

/-- The pressure is behind a later one, or leaves the withdraw alarm as it is. -/
def PressureSettled (fl : Gleitkomma) (troop : BreathingTroop) (member : TroopMember) (press : ℚ) (ts : Zeit) : Prop :=
  troop.historical member.id ts = true ∨
    withdrawDue fl (troop.setMember member.id ({ · with currentPress := some press })) = withdrawDue fl troop

/-- When an event captured at `ts`, before the entry of the cycle, leaves the
cycle alone. -/
def Harmless (fl : Gleitkomma) (troop : BreathingTroop) (entry ts : Zeit) : Operation → Prop
  | .status newStatus _ => ∀ status, TroopStatus.ofText? newStatus = some status →
      status ∉ allowedTroopTransitions troop.status
  | .funkverlust true _ => troop.status.inside = true → Alarmed troop
  | .funkverlust false _ => troop.notfallAt.isSome ∨ troop.funkVerlorenAt = none
  | .notfall _ _ => troop.status.inside = true → troop.notfallAt.isSome
  | .ack .maxTime _ => ∀ now, ¬ MaxDue troop now
  | .ack .withdraw _ => withdrawDue fl troop = false
  | .kontrolle meldung =>
      (∀ stufe, Stufe.ofText? meldung.stufe = some stufe → Art.ofText? meldung.art = some .keinKontakt →
        troop.status.inside = true → Alarmed troop) ∧
      ∀ stufe value press id member, Funkkontrolle meldung troop stufe value press id member →
        StageSettled troop entry stufe ∧ PressureSettled fl troop member press ts
  | _ => True

variable {fl : Gleitkomma} {keys : Schluessel} {umgebung : Umgebung} {operation : Operation}
  {troop troop' : BreathingTroop} {entry ts : Zeit}

theorem Untouched.refl (troop : BreathingTroop) : Untouched fl troop troop :=
  ⟨rfl, fun _ _ => Iff.rfl⟩

theorem untouched_iff :
    Untouched fl troop troop' ↔ troop'.status = troop.status ∧
      (troop'.notfallAt.isSome ↔ troop.notfallAt.isSome) ∧
      (troop'.notfallAt = none ∧ troop'.funkVerlorenAt.isSome ↔ troop.notfallAt = none ∧ troop.funkVerlorenAt.isSome) ∧
      (withdrawDue fl troop' = withdrawDue fl troop) ∧ (∀ now, MaxDue troop' now ↔ MaxDue troop now) ∧
      (∀ now, StageDue troop' .twoThird now ↔ StageDue troop .twoThird now) ∧
      (∀ now, StageDue troop' .oneThird now ↔ StageDue troop .oneThird now) := by
  constructor
  · rintro ⟨status, same⟩
    refine ⟨status, ?_, ?_, ?_, fun now => ?_, fun now => ?_, fun now => ?_⟩
    · simpa only [notfall_mem] using same 0 .notfall
    · simpa only [funkVerloren_mem] using same 0 .funkVerloren
    · simpa only [withdraw_mem, ← Bool.eq_iff_iff] using same 0 .withdraw
    · simpa only [maxExceeded_mem] using same now .maxExceeded
    · simpa only [twoThirdDue_mem] using same now .twoThirdDue
    · simpa only [oneThirdDue_mem] using same now .oneThirdDue
  · rintro ⟨status, notfall, funk, withdraw, most, twoThird, oneThird⟩
    refine ⟨status, fun now warning => ?_⟩
    cases warning with
    | withdraw => rw [withdraw_mem, withdraw_mem, withdraw]
    | maxExceeded => rw [maxExceeded_mem, maxExceeded_mem, most now]
    | oneThirdDue => rw [oneThirdDue_mem, oneThirdDue_mem, oneThird now]
    | twoThirdDue => rw [twoThirdDue_mem, twoThirdDue_mem, twoThird now]
    | funkVerloren => rw [funkVerloren_mem, funkVerloren_mem, funk]
    | notfall => rw [notfall_mem, notfall_mem, notfall]

theorem untouched_funkVerloren (since : Option Zeit) (kontrollen : List BreathingKontrolle)
    (checks : ∀ stufe, { troop with funkVerlorenAt := since, kontrollen := kontrollen }.controlled stufe =
      troop.controlled stufe) :
    Untouched fl troop { troop with funkVerlorenAt := since, kontrollen := kontrollen } ↔
      troop.notfallAt.isSome ∨ (since.isSome ↔ troop.funkVerlorenAt.isSome) := by
  have due : ∀ stufe now, StageDue { troop with funkVerlorenAt := since, kontrollen := kontrollen } stufe now ↔
      StageDue troop stufe now := by
    intro stufe now
    unfold StageDue settled
    rw [checks stufe]
    rfl
  rw [untouched_iff]
  cases notfall : troop.notfallAt with
  | some at_ => exact ⟨fun _ => Or.inl rfl, fun _ => ⟨rfl, by simp, by simp, rfl, fun _ => Iff.rfl, due .twoThird, due .oneThird⟩⟩
  | none =>
    constructor
    · rintro ⟨-, -, funk, -⟩
      exact Or.inr (by simpa using funk)
    · rintro (isSome | same)
      · cases isSome
      · exact ⟨rfl, by simp, by simpa using same, rfl, fun _ => Iff.rfl, due .twoThird, due .oneThird⟩

theorem untouched_ackMaxTime (at_ : Zeit) :
    Untouched fl troop { troop with warnMaxTimeAckedAt := some at_, escalatedAt := none } ↔ ∀ now, ¬ MaxDue troop now := by
  rw [untouched_iff]
  have silent : ∀ now, ¬ MaxDue { troop with warnMaxTimeAckedAt := some at_, escalatedAt := none } now := by
    rintro now ⟨entry, most, -, -, -, -, -, open_⟩
    cases open_
  constructor
  · rintro ⟨-, -, -, -, most, -⟩ now due
    exact silent now ((most now).mpr due)
  · intro never
    exact ⟨rfl, Iff.rfl, Iff.rfl, rfl, fun now => iff_of_false (silent now) (never now), fun _ => Iff.rfl,
      fun _ => Iff.rfl⟩

theorem untouched_ackWithdraw (at_ : Zeit) :
    Untouched fl troop { troop with
        warnWithdrawAckedAt := some at_
        warnWithdrawAckedPress := (getWarningLevel fl troop 75).member.bind (·.currentPress) } ↔
      withdrawDue fl troop = false := by
  rw [untouched_iff]
  have silent : withdrawDue fl { troop with
      warnWithdrawAckedAt := some at_
      warnWithdrawAckedPress := (getWarningLevel fl troop 75).member.bind (·.currentPress) } = false := by
    have level : ∀ acked press, getWarningLevel fl
        { troop with warnWithdrawAckedAt := acked, warnWithdrawAckedPress := press } 75 = getWarningLevel fl troop 75 :=
      fun _ _ => rfl
    simp only [withdrawDue, level, Option.isNone_some, Bool.false_or]
    cases (getWarningLevel fl troop 75).member.bind (·.currentPress) <;> simp
  constructor
  · rintro ⟨-, -, -, withdraw, -⟩
    exact withdraw.symm.trans silent
  · intro quiet
    exact ⟨rfl, Iff.rfl, Iff.rfl, silent.trans quiet.symm, fun _ => Iff.rfl, fun _ => Iff.rfl, fun _ => Iff.rfl⟩

theorem reported_pressed (messung : Messung) (member : TroopMember) (press : ℚ) (note : Option String)
    {now dueAt : Zeit} (early : now < dueAt) :
    (pressed messung member press note now troop).reported dueAt = troop.reported dueAt := by
  unfold BreathingTroop.reported BreathingTroop.activePressureLogs
  rw [inCycle_pressed, pressureLogs_pressed, List.filter_append, List.any_append]
  have missed : ([pressureLog messung member press note now].filter troop.inCycle).any (dueAt ≤ ·.ts) = false := by
    rw [List.any_eq_false]
    intro log inLogs
    obtain rfl := List.mem_singleton.mp (List.mem_filter.mp inLogs).1
    exact fun late => absurd (of_decide_eq_true late) (not_le.mpr early)
  rw [missed, Bool.or_false]

theorem controlled_checked (meldung : Kontrollmeldung) (stufe : Stufe) (press : ℚ) (id : Nat) (other : Stufe) :
    (checked umgebung meldung stufe press id troop).controlled other =
      (troop.controlled other || decide (stufe = other)) := by
  simp [BreathingTroop.controlled, BreathingTroop.activeKontrollen, checked, kontrolle, List.filter_append]

theorem dueSeconds_congr (planned : troop'.plannedDurationMin = troop.plannedDurationMin) (stufe : Stufe) :
    dueSeconds troop' stufe = dueSeconds troop stufe := by
  cases stufe <;> simp [dueSeconds, BreathingTroop.oneThirdSeconds, BreathingTroop.twoThirdSeconds, planned]

theorem stageDue_congr (status : troop'.status = troop.status) (entered : troop'.entryAt = troop.entryAt)
    (planned : troop'.plannedDurationMin = troop.plannedDurationMin) (inside : troop.status.inside = true)
    (current : troop.entryAt = some entry) (stufe : Stufe) :
    (∀ now, StageDue troop' stufe now ↔ StageDue troop stufe now) ↔
      ∀ due, dueSeconds troop stufe = some due → due ≠ 0 →
        settled troop' stufe (entry + sekunden due) = settled troop stufe (entry + sekunden due) := by
  have reads : ∀ now, StageDue troop' stufe now ↔ ∃ due, dueSeconds troop stufe = some due ∧ due ≠ 0 ∧
      entry + sekunden due ≤ now ∧ settled troop' stufe (entry + sekunden due) = false := by
    intro now
    simp [StageDue, status, entered, dueSeconds_congr planned, inside, current]
  have was : ∀ now, StageDue troop stufe now ↔ ∃ due, dueSeconds troop stufe = some due ∧ due ≠ 0 ∧
      entry + sekunden due ≤ now ∧ settled troop stufe (entry + sekunden due) = false := by
    intro now
    simp [StageDue, inside, current]
  constructor
  · intro same due isDue positive
    have atDue := same (entry + sekunden due)
    rw [reads, was] at atDue
    simpa [isDue, positive, ← Bool.eq_iff_iff] using atDue
  · intro same now
    rw [reads, was]
    refine exists_congr fun due => and_congr_right fun isDue => and_congr_right fun positive => ?_
    rw [same due isDue positive]

theorem pressed_frame (troop : BreathingTroop) (messung : Messung) (member : TroopMember) (press : ℚ) (note : Option String) (now : Zeit) :
    (pressed messung member press note now troop).notfallAt = troop.notfallAt ∧
      (pressed messung member press note now troop).funkVerlorenAt = troop.funkVerlorenAt ∧
      (pressed messung member press note now troop).plannedDurationMin = troop.plannedDurationMin ∧
      (pressed messung member press note now troop).warnMaxTimeAckedAt = troop.warnMaxTimeAckedAt ∧
      (pressed messung member press note now troop).kontrollen = troop.kontrollen := by
  unfold pressed
  split <;> exact ⟨rfl, rfl, rfl, rfl, rfl⟩

theorem withdrawDue_pressed (messung : Messung) (member : TroopMember) (press : ℚ) (note : Option String)
    (now : Zeit) : withdrawDue fl (pressed messung member press note now troop) = withdrawDue fl troop ↔
      PressureSettled fl troop member press now := by
  unfold pressed PressureSettled
  split
  · next later => exact ⟨fun _ => Or.inl later, fun _ => rfl⟩
  · next newest =>
    constructor
    · exact fun same => Or.inr same
    · rintro (later | same)
      · exact absurd later newest
      · exact same

theorem untouched_funk (current : troop.entryAt = some entry) (old : ts < entry) (inside : troop.status.inside = true)
    (meldung : Kontrollmeldung) (stufe : Stufe) (value : Zahl) (press : ℚ) (id : Nat) (member : TroopMember)
    (note : Option String) :
    Untouched fl troop (checked umgebung meldung stufe press id
        (pressed (funkMessung meldung value id) member press note ts troop)) ↔
      StageSettled troop entry stufe ∧ PressureSettled fl troop member press ts := by
  obtain ⟨status, entered, -, -⟩ := pressed_times troop (funkMessung meldung value id) member press note ts
  obtain ⟨notfall, funk, planned, acked, kontrollen⟩ :=
    pressed_frame troop (funkMessung meldung value id) member press note ts
  let logged := pressed (funkMessung meldung value id) member press note ts troop
  let after := checked umgebung meldung stufe press id logged
  have checks : ∀ other, after.controlled other = (troop.controlled other || decide (stufe = other)) := by
    intro other
    rw [controlled_checked]
    unfold BreathingTroop.controlled BreathingTroop.activeKontrollen
    rw [kontrollen]
  have reports : ∀ due : Nat, after.reported (entry + sekunden due) = troop.reported (entry + sekunden due) :=
    fun due => reported_pressed _ member press note (old.trans_le (le_add_of_nonneg_right (sekunden_nonneg due)))
  have most : ∀ now, MaxDue after now ↔ MaxDue troop now := by
    intro now
    simp only [MaxDue, BreathingTroop.maxSeconds, after, checked, logged, entered, status, planned, acked]
  have stages : ∀ other, (∀ now, StageDue after other now ↔ StageDue troop other now) ↔
      (stufe = other → StageSettled troop entry other) := by
    intro other
    have deadlines := stageDue_congr (show after.status = troop.status from status) entered planned inside current other
    rw [deadlines]
    by_cases same : stufe = other
    · have met : ∀ due : Nat, settled after other (entry + sekunden due) = true := by
        intro due
        simp [settled, checks, same]
      simp only [met, same, true_implies, StageSettled]
      exact forall_congr' fun due => imp_congr_right fun _ => imp_congr_right fun _ => eq_comm
    · have kept : ∀ due : Nat, settled after other (entry + sekunden due) = settled troop other (entry + sekunden due) := by
        intro due
        simp [settled, checks, reports, same]
      exact iff_of_true (fun due _ _ => kept due) fun isOther => absurd isOther same
  have withdraw : withdrawDue fl after = withdrawDue fl troop ↔ PressureSettled fl troop member press ts :=
    withdrawDue_pressed (funkMessung meldung value id) member press note ts
  have free : StageSettled troop entry .frei := by
    intro due isDue
    cases isDue
  rw [untouched_iff, stages, stages, withdraw]
  constructor
  · rintro ⟨-, -, -, pressure, -, twoThird, oneThird⟩
    refine ⟨?_, pressure⟩
    cases stufe with
    | oneThird => exact oneThird rfl
    | twoThird => exact twoThird rfl
    | frei => exact free
  · rintro ⟨stage, pressure⟩
    refine ⟨status, ?_, ?_, pressure, most, fun same => same ▸ stage, fun same => same ▸ stage⟩
    · simp only [checked, notfall]
    · simp only [checked, notfall, funk]

theorem activeKontrollen_keinKontakt (meldung : Kontrollmeldung) (stufe other : Stufe) :
    (keinKontakt umgebung meldung stufe troop).controlled other = troop.controlled other := by
  simp [BreathingTroop.controlled, BreathingTroop.activeKontrollen, keinKontakt, kontrolle, List.filter_append]

theorem Funkkontrolle.accepted {meldung : Kontrollmeldung} {stufe : Stufe} {value : Zahl} {press : ℚ} {id : Nat}
    {member : TroopMember} (check : Funkkontrolle meldung troop stufe value press id member) :
    recordKontrolle fl umgebung meldung troop =
      .ok (checked umgebung meldung stufe press id (pressed (funkMessung meldung value id) member press
        (correctedNote (strip "") (funkNote meldung stufe)) (meldung.ts.getD (umgebung.uhr 0)) troop)) := by
  have silent : strip "" = "" := by decide
  have logged : logPressure fl umgebung (funkMessung meldung value id) (funkNote meldung stufe) none true troop =
      .ok (pressed (funkMessung meldung value id) member press (correctedNote (strip "") (funkNote meldung stufe))
        (meldung.ts.getD (umgebung.uhr 0)) troop) := by
    simp [logPressure, funkMessung, check.pressure, check.inside, check.found, silent]
  simp [recordKontrolle, check.stage, check.art, check.inside, funkkontrolle, check.reported, check.pressure,
    check.named, logged]

theorem step_accepted (stand : Stand) (request : Request)
    (ok : apply fl (stand.next.skip request.operation.skipped) request stand.troop = .ok troop') :
    (step fl stand request).troop = troop' := by
  simp [step, ok]

theorem kontrolle_untouched_iff (stand : Stand) (umgebung : Umgebung) (meldung : Kontrollmeldung)
    (current : stand.troop.entryAt = some entry) (late : meldung.ts = some ts) (old : ts < entry) :
    Untouched fl stand.troop (step fl stand ⟨umgebung, .kontrolle meldung⟩).troop ↔
      Harmless fl stand.troop entry ts (.kontrolle meldung) := by
  have captured : meldung.ts.getD (umgebung.uhr 0) = ts := by simp [late]
  constructor
  · intro untouched
    refine ⟨fun stufe stage art inside => ?_, fun stufe value press id member check => ?_⟩
    · have accepted : recordKontrolle fl umgebung meldung stand.troop =
          .ok (keinKontakt umgebung meldung stufe stand.troop) := by
        simp [recordKontrolle, stage, art, inside]
      rw [step_accepted stand ⟨umgebung, .kontrolle meldung⟩ accepted] at untouched
      rcases (untouched_funkVerloren _ _ (activeKontrollen_keinKontakt meldung stufe)).mp untouched with
        notfall | same
      · exact Or.inl notfall
      · exact Or.inr (same.mp rfl)
    · rw [step_accepted stand ⟨umgebung, .kontrolle meldung⟩ check.accepted, captured] at untouched
      exact (untouched_funk current old check.inside meldung stufe value press id member _).mp untouched
  · rintro ⟨contact, radio⟩
    rcases step_effect stand ⟨umgebung, .kontrolle meldung⟩ with ⟨same, -⟩ | effect
    · rw [same]
      exact .refl _
    · generalize (step fl stand ⟨umgebung, .kontrolle meldung⟩).troop = troop' at effect
      cases effect with
      | funk _ stufe value press id member stage art reported pressure inside named found =>
        rw [captured]
        exact (untouched_funk current old inside meldung stufe value press id member _).mpr
          (radio stufe value press id member ⟨stage, art, inside, reported, pressure, named, found⟩)
      | keinKontakt _ stufe stage art inside =>
        refine (untouched_funkVerloren _ _ (activeKontrollen_keinKontakt meldung stufe)).mpr ?_
        rcases contact stufe stage art inside with notfall | lost
        · exact Or.inl notfall
        · exact Or.inr (by simp [lost])

theorem funkverlust_untouched_iff (stand : Stand) (umgebung : Umgebung) (active : Bool) (captured : Option Zeit) :
    Untouched fl stand.troop (step fl stand ⟨umgebung, .funkverlust active captured⟩).troop ↔
      Harmless fl stand.troop entry ts (.funkverlust active captured) := by
  by_cases refused : (active && !stand.troop.status.inside) = true
  · have same : step fl stand ⟨umgebung, .funkverlust active captured⟩ = stand := by
      simp only [step, apply, setFunkVerloren, if_pos refused]
    rw [same]
    simp only [Bool.and_eq_true, Bool.not_eq_true'] at refused
    refine iff_of_true (.refl _) ?_
    rw [refused.1]
    intro inside
    simp [inside] at refused
  · have accepted : setFunkVerloren umgebung active captured stand.troop = .ok { stand.troop with
        funkVerlorenAt := if active then some (stand.troop.funkVerlorenAt.getD (captured.getD (umgebung.uhr 0)))
          else none } := by
      simp only [setFunkVerloren, if_neg refused]
    rw [step_accepted stand ⟨umgebung, .funkverlust active captured⟩ accepted]
    cases active with
    | false => exact (untouched_funkVerloren none stand.troop.kontrollen fun _ => rfl).trans (by simp [Harmless])
    | true =>
      have inside : stand.troop.status.inside = true := by simpa using refused
      exact (untouched_funkVerloren (some (stand.troop.funkVerlorenAt.getD (captured.getD (umgebung.uhr 0))))
        stand.troop.kontrollen fun _ => rfl).trans (by simp [Harmless, Alarmed, inside])

theorem notfall_untouched_iff (stand : Stand) (umgebung : Umgebung) (userId : Option Nat) (captured : Option Zeit) :
    Untouched fl stand.troop (step fl stand ⟨umgebung, .notfall userId captured⟩).troop ↔
      Harmless fl stand.troop entry ts (.notfall userId captured) := by
  constructor
  · intro untouched inside
    cases already : stand.troop.notfallAt with
    | some at_ => rfl
    | none =>
      have accepted : declareNotfall umgebung userId captured stand.troop = .ok { stand.troop with
          notfallAt := some (captured.getD (umgebung.uhr 0)), notfallVonUserId := userId } := by
        simp [declareNotfall, inside, already]
      rw [step_accepted stand ⟨umgebung, .notfall userId captured⟩ accepted, untouched_iff] at untouched
      simpa [already] using untouched.2.1
  · intro harmless
    rcases step_effect stand ⟨umgebung, .notfall userId captured⟩ with ⟨same, -⟩ | effect
    · rw [same]
      exact .refl _
    · generalize (step fl stand ⟨umgebung, .notfall userId captured⟩).troop = troop' at effect
      cases effect with
      | declared => exact .refl _
      | notfall _ _ inside first =>
        have already := harmless inside
        rw [first] at already
        cases already

/-- An event captured before the entry of the current cycle leaves its status
and its warnings alone if and only if it is harmless. -/
theorem lateEvent_untouched_iff (fl : Gleitkomma) (stand : Stand) (umgebung : Umgebung) (operation : Operation)
    (entry ts : Zeit) (current : stand.troop.entryAt = some entry) (late : operation.capturedAt = some ts)
    (old : ts < entry) :
    Untouched fl stand.troop (step fl stand ⟨umgebung, operation⟩).troop ↔
      Harmless fl stand.troop entry ts operation := by
  cases operation with
  | start | redeploy | druck | einsatzziel | enddruck | notfallAufheben | meldung => cases late
  | kontrolle meldung => exact kontrolle_untouched_iff stand umgebung meldung current late old
  | status newStatus captured =>
    constructor
    · intro untouched status parsed allowed
      have moves : status ≠ stand.troop.status := by
        rintro rfl
        cases was : stand.troop.status <;> simp [was, allowedTroopTransitions] at allowed
      have accepted : updateTroopStatus umgebung newStatus captured stand.troop =
          .ok (moved status (captured.getD (umgebung.uhr 0)) stand.troop) := by
        simp [updateTroopStatus, parsed, moves, allowed]
      rw [step_accepted stand ⟨umgebung, .status newStatus captured⟩ accepted] at untouched
      exact moves untouched.1
    · intro harmless
      rcases step_effect stand ⟨umgebung, .status newStatus captured⟩ with ⟨same, -⟩ | effect
      · rw [same]
        exact .refl _
      · generalize (step fl stand ⟨umgebung, .status newStatus captured⟩).troop = troop' at effect
        cases effect with
        | repeated => exact .refl _
        | status _ _ status parsed allowed => exact absurd allowed (harmless status parsed)
  | funkverlust active captured => exact funkverlust_untouched_iff stand umgebung active captured
  | notfall userId captured => exact notfall_untouched_iff stand umgebung userId captured
  | ack kind captured =>
    cases kind with
    | oneThird | twoThird => exact iff_of_true (.refl _) trivial
    | maxTime => exact untouched_ackMaxTime _
    | withdraw => exact untouched_ackWithdraw _

/-- The sample troop has been inside, has rested and is inside again from the
sixtieth minute on. -/
def secondCycle : Stand :=
  Transition.run (step exakt) (born ⟨1, 1⟩ sampleTroop)
    [requestAt 0 (.start none none), requestAt (minuten 10) (.status "zurueck" (some (minuten 10))),
      requestAt (minuten 11) (.status "erholt" (some (minuten 11))),
      requestAt (minuten 20) (.redeploy ⟨0, 0⟩ sampleData.membersData none none none none),
      requestAt (minuten 60) (.start none none)]

theorem lateEvent_untouched_iff_second :
    Untouched exakt secondCycle.troop
        (step exakt secondCycle ⟨{ uhr := fun _ => minuten 61 }, .ack .maxTime (some (minuten 9))⟩).troop ↔
      Harmless exakt secondCycle.troop (minuten 60) (minuten 9) (.ack .maxTime (some (minuten 9))) :=
  lateEvent_untouched_iff exakt secondCycle { uhr := fun _ => minuten 61 } (.ack .maxTime (some (minuten 9)))
    (minuten 60) (minuten 9) (by decide +kernel) rfl (by decide)

/-- An acknowledgement captured in the first cycle and accepted in the second
silences the maximum time of the second. -/
theorem lateAck_silences :
    parseErfasstAt (fun _ => some (minuten 9)) (some "1970-01-01T00:09:00Z") (minuten 61) = .ok (minuten 9, true) ∧
      secondCycle.troop.entryAt = some (minuten 60) ∧
      ¬ Untouched exakt secondCycle.troop
        (step exakt secondCycle ⟨{ uhr := fun _ => minuten 61 }, .ack .maxTime (some (minuten 9))⟩).troop := by
  refine ⟨by rfl, by decide +kernel, fun untouched => ?_⟩
  have silenced := (untouched.2 (minuten 90) .maxExceeded).mpr (by decide +kernel)
  exact absurd silenced (by decide +kernel)

end Einsatzcockpit.Breathing
