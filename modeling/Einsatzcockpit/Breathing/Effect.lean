import Einsatzcockpit.Breathing.Service

namespace Einsatzcockpit.Breathing

/-- What an accepted request does to its troop, and what it has been checked
for. -/
inductive Effect (fl : Gleitkomma) (keys : Schluessel) (umgebung : Umgebung) :
    Operation → BreathingTroop → BreathingTroop → Prop where
  | start {troop} (reason userId) (crew : 2 ≤ troop.activeMembers.length)
      (ready : checkStartReadiness fl umgebung troop = [] ∨ strip (reason.getD "") ≠ "") :
      Effect fl keys umgebung (.start reason userId) troop
        (started fl umgebung (checkStartReadiness fl umgebung troop) (strip (reason.getD "")) userId troop)
  | repeated {troop} (newStatus ts) (parsed : TroopStatus.ofText? newStatus = some troop.status) :
      Effect fl keys umgebung (.status newStatus ts) troop troop
  | status {troop} (newStatus ts status) (parsed : TroopStatus.ofText? newStatus = some status)
      (allowed : status ∈ allowedTroopTransitions troop.status) :
      Effect fl keys umgebung (.status newStatus ts) troop (moved status (ts.getD (umgebung.uhr 0)) troop)
  | redeploy {troop} (skipped data task location planned preset filled) (erholt : troop.status = .erholt)
      (valid : validatedMembersData data = .ok filled) :
      Effect fl keys umgebung (.redeploy skipped data task location planned preset) troop
        (redeployed keys filled task location planned preset troop)
  | druck {troop} (messung note reason press member) (pressure : validatePressure messung.pressureBar = .ok press)
      (inside : troop.status.inside) (found : troop.activeMember? messung.troopMemberId = some member) :
      Effect fl keys umgebung (.druck messung note reason) troop
        (pressed messung member press (correctedNote (strip (reason.getD "")) note) (messung.ts.getD (umgebung.uhr 0)) troop)
  | funk {troop} (meldung stufe value press id member) (stage : Stufe.ofText? meldung.stufe = some stufe)
      (art : Art.ofText? meldung.art = some .funk) (reported : meldung.pressureBar = some value)
      (pressure : validatePressure value = .ok press) (inside : troop.status.inside)
      (named : (meldung.troopMemberId <|> (lowestMember troop).map (·.id)) = some id)
      (found : troop.activeMember? id = some member) :
      Effect fl keys umgebung (.kontrolle meldung) troop
        (checked umgebung meldung stufe press id (pressed (funkMessung meldung value id) member press
          (correctedNote (strip "") (funkNote meldung stufe)) (meldung.ts.getD (umgebung.uhr 0)) troop))
  | keinKontakt {troop} (meldung stufe) (stage : Stufe.ofText? meldung.stufe = some stufe)
      (art : Art.ofText? meldung.art = some .keinKontakt) (inside : troop.status.inside) :
      Effect fl keys umgebung (.kontrolle meldung) troop (keinKontakt umgebung meldung stufe troop)
  | einsatzziel {troop} (messung press member startPress) (pressure : validatePressure messung.pressureBar = .ok press)
      (inside : troop.status.inside) (found : troop.activeMember? messung.troopMemberId = some member)
      (full : member.startPress = some startPress) :
      Effect fl keys umgebung (.einsatzziel messung) troop
        (objectiveReached fl umgebung.asuewSettings.rueckzugUntergrenzeBar messung member startPress press
          (messung.ts.getD (umgebung.uhr 0)) troop)
  | enddruck {troop} (messung press member) (pressure : validatePressure messung.pressureBar = .ok press)
      (out : troop.status ∈ [TroopStatus.zurueck, .erholt, .rueckzug])
      (found : troop.activeMember? messung.troopMemberId = some member) :
      Effect fl keys umgebung (.enddruck messung) troop
        (troop.setMember member.id ({ · with backPress := some press }))
  | funkverlust {troop} (active : Bool) (ts) (inside : active → troop.status.inside) :
      Effect fl keys umgebung (.funkverlust active ts) troop { troop with
        funkVerlorenAt := if active then some (troop.funkVerlorenAt.getD (ts.getD (umgebung.uhr 0))) else none }
  | declared {troop} (userId ts) (inside : troop.status.inside) (already : troop.notfallAt.isSome) :
      Effect fl keys umgebung (.notfall userId ts) troop troop
  | notfall {troop} (userId ts) (inside : troop.status.inside) (first : troop.notfallAt = none) :
      Effect fl keys umgebung (.notfall userId ts) troop
        { troop with notfallAt := some (ts.getD (umgebung.uhr 0)), notfallVonUserId := userId }
  | notfallAufheben {troop} : Effect fl keys umgebung .notfallAufheben troop (clearNotfall troop)
  | meldung {troop} (text ts) : Effect fl keys umgebung (.meldung text ts) troop (updateMeldung umgebung text ts troop)
  | ackMaxTime {troop} (ts) : Effect fl keys umgebung (.ack .maxTime ts) troop
      { troop with warnMaxTimeAckedAt := some (ts.getD (umgebung.uhr 0)), escalatedAt := none }
  | ackWithdraw {troop} (ts) : Effect fl keys umgebung (.ack .withdraw ts) troop
      { troop with
        warnWithdrawAckedAt := some (ts.getD (umgebung.uhr 0))
        warnWithdrawAckedPress := (getWarningLevel fl troop 75).member.bind (·.currentPress) }

variable {fl : Gleitkomma} {keys : Schluessel} {umgebung : Umgebung} {troop troop' : BreathingTroop}

theorem startTroop_ok {reason : Option String} {userId : Option Nat}
    (ok : startTroop fl umgebung reason userId troop = .ok troop') :
    2 ≤ troop.activeMembers.length ∧
      (checkStartReadiness fl umgebung troop = [] ∨ strip (reason.getD "") ≠ "") ∧
      troop' = started fl umgebung (checkStartReadiness fl umgebung troop) (strip (reason.getD "")) userId troop := by
  simp only [startTroop] at ok
  split at ok
  · cases ok
  · next crew =>
    split at ok
    · cases ok
    · next ready =>
      refine ⟨by omega, ?_, (Except.ok.inj ok).symm⟩
      by_cases clear : checkStartReadiness fl umgebung troop = []
      · exact Or.inl clear
      · exact Or.inr fun empty => ready ⟨clear, empty⟩

theorem updateTroopStatus_ok {newStatus : String} {ts : Option Zeit}
    (ok : updateTroopStatus umgebung newStatus ts troop = .ok troop') :
    ∃ status, TroopStatus.ofText? newStatus = some status ∧
      (status = troop.status ∧ troop' = troop ∨
        status ∈ allowedTroopTransitions troop.status ∧ troop' = moved status (ts.getD (umgebung.uhr 0)) troop) := by
  unfold updateTroopStatus at ok
  split at ok
  · cases ok
  · next status parsed =>
    refine ⟨status, parsed, ?_⟩
    split at ok
    · next same => exact Or.inl ⟨same, (Except.ok.inj ok).symm⟩
    · split at ok
      · cases ok
      · next allowed => exact Or.inr ⟨not_not.mp allowed, (Except.ok.inj ok).symm⟩

theorem logPressure_ok {messung : Messung} {note reason : Option String} {increase : Bool}
    (ok : logPressure fl umgebung messung note reason increase troop = .ok troop') :
    ∃ press member, validatePressure messung.pressureBar = .ok press ∧ troop.status.inside ∧
      troop.activeMember? messung.troopMemberId = some member ∧
      troop' = pressed messung member press (correctedNote (strip (reason.getD "")) note)
        (messung.ts.getD (umgebung.uhr 0)) troop := by
  unfold logPressure at ok
  split at ok
  · cases ok
  · next press pressure =>
    split at ok
    · cases ok
    · next inside =>
      split at ok
      · cases ok
      · next member found =>
        dsimp only at ok
        split at ok
        · cases ok
        · split at ok
          · cases ok
          · exact ⟨press, member, pressure, by simpa using inside, found, (Except.ok.inj ok).symm⟩

theorem reportObjectiveReached_ok {messung : Messung}
    (ok : reportObjectiveReached fl umgebung messung troop = .ok troop') :
    ∃ press member startPress, validatePressure messung.pressureBar = .ok press ∧ troop.status.inside ∧
      troop.activeMember? messung.troopMemberId = some member ∧ member.startPress = some startPress ∧
      troop' = objectiveReached fl umgebung.asuewSettings.rueckzugUntergrenzeBar messung member startPress press
        (messung.ts.getD (umgebung.uhr 0)) troop := by
  unfold reportObjectiveReached at ok
  split at ok
  · cases ok
  · next press pressure =>
    split at ok
    · cases ok
    · next inside =>
      split at ok
      · cases ok
      · next member found =>
        split at ok
        · cases ok
        · next startPress full =>
          exact ⟨press, member, startPress, pressure, by simpa using inside, found, full, (Except.ok.inj ok).symm⟩

theorem funkkontrolle_ok {meldung : Kontrollmeldung} {stufe : Stufe}
    (ok : funkkontrolle fl umgebung meldung stufe troop = .ok troop') :
    ∃ value press id member, meldung.pressureBar = some value ∧ validatePressure value = .ok press ∧
      troop.status.inside ∧ (meldung.troopMemberId <|> (lowestMember troop).map (·.id)) = some id ∧
      troop.activeMember? id = some member ∧
      troop' = checked umgebung meldung stufe press id (pressed (funkMessung meldung value id) member press
        (correctedNote (strip "") (funkNote meldung stufe)) (meldung.ts.getD (umgebung.uhr 0)) troop) := by
  unfold funkkontrolle at ok
  split at ok
  · cases ok
  · next value reported =>
    split at ok
    · cases ok
    · next press pressure =>
      split at ok
      · cases ok
      · next id named =>
        split at ok
        · cases ok
        · next logged report =>
          obtain ⟨press', member, pressure', inside, found, rfl⟩ := logPressure_ok report
          obtain rfl : press = press' := Except.ok.inj (pressure.symm.trans pressure')
          exact ⟨value, press, id, member, reported, pressure, inside, named, found, (Except.ok.inj ok).symm⟩

theorem apply_effect {request : Request} (ok : apply fl keys request troop = .ok troop') :
    Effect fl keys request.umgebung request.operation troop troop' := by
  obtain ⟨umgebung, operation⟩ := request
  cases operation with
  | start reason userId =>
    obtain ⟨crew, ready, rfl⟩ := startTroop_ok ok
    exact .start _ _ crew ready
  | status newStatus ts =>
    obtain ⟨status, parsed, ⟨rfl, rfl⟩ | ⟨allowed, rfl⟩⟩ := updateTroopStatus_ok ok
    · exact .repeated _ _ parsed
    · exact .status _ _ _ parsed allowed
  | redeploy skipped data task location planned preset =>
    simp only [apply, redeployTroop] at ok
    split at ok
    · cases ok
    · next erholt =>
      split at ok
      · cases ok
      · next filled valid =>
        cases ok
        exact .redeploy _ _ _ _ _ _ _ (not_not.mp erholt) valid
  | druck messung note reason =>
    obtain ⟨press, member, pressure, inside, found, rfl⟩ := logPressure_ok ok
    exact .druck _ _ _ _ _ pressure inside found
  | kontrolle meldung =>
    simp only [apply, recordKontrolle] at ok
    split at ok
    · cases ok
    · cases ok
    · next stufe art stage isArt =>
      split at ok
      · cases ok
      · next inside =>
        cases art with
        | funk =>
          obtain ⟨value, press, id, member, reported, pressure, inside', named, found, rfl⟩ := funkkontrolle_ok ok
          exact .funk _ _ _ _ _ _ stage isArt reported pressure inside' named found
        | keinKontakt =>
          cases ok
          exact .keinKontakt _ _ stage isArt (by simpa using inside)
  | einsatzziel messung =>
    obtain ⟨press, member, startPress, pressure, inside, found, full, rfl⟩ := reportObjectiveReached_ok ok
    exact .einsatzziel _ _ _ _ pressure inside found full
  | enddruck messung =>
    simp only [apply, reportBackPressure] at ok
    split at ok
    · cases ok
    · next press pressure =>
      split at ok
      · cases ok
      · next out =>
        split at ok
        · cases ok
        · next member found =>
          cases ok
          exact .enddruck _ _ _ pressure (not_not.mp out) found
  | funkverlust active ts =>
    simp only [apply, setFunkVerloren] at ok
    split at ok
    · cases ok
    · next inside =>
      cases ok
      exact .funkverlust _ _ fun isActive => by simpa [isActive] using inside
  | notfall userId ts =>
    simp only [apply, declareNotfall] at ok
    split at ok
    · cases ok
    · next inside =>
      have active : troop.status.inside := by simpa using inside
      split at ok
      · next already =>
        cases ok
        exact .declared _ _ active already
      · next first =>
        cases ok
        exact .notfall _ _ active (by simpa using first)
  | notfallAufheben =>
    cases ok
    exact .notfallAufheben
  | meldung text ts =>
    cases ok
    exact .meldung _ _
  | ack kind ts =>
    cases kind with
    | oneThird | twoThird => cases ok
    | maxTime =>
      cases ok
      exact .ackMaxTime _
    | withdraw =>
      cases ok
      exact .ackWithdraw _

theorem step_effect (stand : Stand) (request : Request) :
    (step fl stand request).troop = stand.troop ∧ (step fl stand request).next = stand.next ∨
      Effect fl (stand.next.skip request.operation.skipped) request.umgebung request.operation stand.troop
        (step fl stand request).troop := by
  cases result : apply fl (stand.next.skip request.operation.skipped) request stand.troop with
  | error fehler => exact Or.inl (by simp [step, result])
  | ok troop =>
    have effect := apply_effect result
    exact Or.inr (by simpa [step, result] using effect)

end Einsatzcockpit.Breathing
