import Einsatzcockpit.Lib.Table
import Einsatzcockpit.Breathing.Logs
import Einsatzcockpit.Breathing.Zugriff

namespace Einsatzcockpit.Breathing

variable {fl : Gleitkomma} {ausfall : Option Ausfall} {keys : Schluessel} {data : ErneutData} {form : ErneutForm}
  {userId : Nat} {umgebung : Umgebung} {operation : Operation} {troop troop' : BreathingTroop}

/-- `redeploy_troop` with its data as one argument. -/
def ErneutData.redeploy (data : ErneutData) (keys : Schluessel) (troop : BreathingTroop) : Except Fehler BreathingTroop :=
  redeployTroop keys data.membersData data.taskText data.locationText data.plannedDurationMin data.bottlePreset troop

theorem exec_redeployTroopDb : (redeployTroopDb ausfall keys data).exec (.load troop) =
    match data.redeploy keys troop with
    | .error fehler => (.error (.fehler fehler), .load troop)
    | .ok next =>
      if ausfall = some .deploymentFlush ∨ ausfall = some .crewFlush then (.error .datenbank, .load troop)
      else (.ok (), ⟨troop, next⟩) := by
  unfold redeployTroopDb ErneutData.redeploy redeployTroop
  rw [DbM.exec_bind, DbM.exec_objects]
  show (ite (troop.status ≠ .erholt) _ _ : DbM Unit).exec _ = _
  by_cases erholt : troop.status = .erholt
  · rw [if_neg (not_not.mpr erholt), if_neg (not_not.mpr erholt)]
    cases valid : validatedMembersData data.membersData with
    | error fehler => rfl
    | ok filled =>
      simp only [DbM.exec_bind, DbM.exec_write, DbM.exec_flush]
      cases ausfall with
      | none => rfl
      | some point => cases point <;> rfl
  · rw [if_pos erholt, if_pos erholt]
    rfl

theorem served_redeployTroopView : served (redeployTroopView ausfall keys data form userId) troop =
    match data.redeploy keys troop with
    | .error _ => troop
    | .ok next => if ausfall = none then form.write userId next else troop := by
  unfold served redeployTroopView
  rw [DbM.exec_bind, exec_redeployTroopDb]
  cases data.redeploy keys troop with
  | error fehler => rfl
  | ok next =>
    cases ausfall with
    | none => rfl
    | some point => cases point <;> rfl

def BreathingTroop.zyklen (troop : BreathingTroop) : List (Option Nat) :=
  none :: troop.deployments.map (some ·.id)

def BreathingTroop.zyklusVon (troop : BreathingTroop) (log : PressureLog) : Option Nat :=
  (troop.troopMember log).bind (·.deploymentId)

@[ext] structure Zyklus where
  members : List TroopMember
  pressureLogs : List PressureLog
  kontrollen : List BreathingKontrolle
  deriving DecidableEq

def BreathingTroop.zyklus (troop : BreathingTroop) (z : Option Nat) : Zyklus where
  members := Archive.cycle (·.deploymentId) z troop.members
  pressureLogs := Archive.cycle troop.zyklusVon z troop.pressureLogs
  kontrollen := Archive.cycle (·.deploymentId) z troop.kontrollen

/-- The deployments are numbered without gaps, and every record belongs to
exactly one cycle. -/
structure Zugeordnet (troop : BreathingTroop) : Prop where
  lfdNr : troop.deployments.map (·.lfdNr) = List.range' 1 troop.deployments.length
  zyklen : troop.zyklen.Nodup
  members : ∀ member ∈ troop.members, ∃! z, z ∈ troop.zyklen ∧ member ∈ (troop.zyklus z).members
  pressureLogs : ∀ log ∈ troop.pressureLogs, ∃! z, z ∈ troop.zyklen ∧ log ∈ (troop.zyklus z).pressureLogs
  kontrollen : ∀ kontrolle ∈ troop.kontrollen, ∃! z, z ∈ troop.zyklen ∧ kontrolle ∈ (troop.zyklus z).kontrollen

/-- What an access writes to an archived cycle: the deletions clear references
to a person, and nothing else does. -/
def Zugriff.bereinigt : Zugriff → Zyklus → Zyklus
  | .mitgliedGeloescht memberId, zyklus =>
    { zyklus with
      members := zyklus.members.map (·.forget memberId)
      pressureLogs := zyklus.pressureLogs.map (·.forget memberId) }
  | .geraetGeloescht userId, zyklus =>
    { zyklus with pressureLogs := zyklus.pressureLogs.map (·.forgetUser userId) }
  | _, zyklus => zyklus

/-- The keys of the archive: every record names the open cycle or one of the
deployments. -/
structure Geordnet (stand : Stand) : Prop where
  keyed : Keyed stand
  logged : Logged stand.troop
  numbered : Relational.Numbered (·.lfdNr) stand.troop.deployments
  distinct : (stand.troop.deployments.map (·.id)).Nodup
  fresh : ∀ deployment ∈ stand.troop.deployments, deployment.id < stand.next.deployment
  members : ∀ member ∈ stand.troop.members, member.deploymentId ∈ stand.troop.zyklen
  kontrollen : ∀ kontrolle ∈ stand.troop.kontrollen, kontrolle.deploymentId ∈ stand.troop.zyklen

def Besetzt (members members' : List TroopMember) : Prop :=
  ∃ change : TroopMember → TroopMember, members' = members.map change ∧
    (∀ member, (change member).id = member.id) ∧
    (∀ member, (change member).deploymentId = member.deploymentId) ∧
    ∀ member ∈ members, member.deploymentId ≠ none → change member = member

/-- Work on the open cycle: records are added to it and its members changed,
all else is as before. -/
structure Arbeit (troop troop' : BreathingTroop) : Prop where
  deployments : troop'.deployments = troop.deployments
  members : Besetzt troop.members troop'.members
  pressureLogs : ∃ new, troop'.pressureLogs = troop.pressureLogs ++ new ∧
    ∀ log ∈ new, ∃ member ∈ troop.activeMembers, log.troopMemberId = member.id
  kontrollen : ∃ new, troop'.kontrollen = troop.kontrollen ++ new ∧
    ∀ kontrolle ∈ new, kontrolle.deploymentId = none

theorem Besetzt.refl (members : List TroopMember) : Besetzt members members :=
  ⟨id, (List.map_id _).symm, fun _ => rfl, fun _ => rfl, fun _ _ _ => rfl⟩

theorem Besetzt.setMember (distinct : (memberIds troop).Nodup) {id : Nat} {member : TroopMember}
    (found : troop.activeMember? id = some member) (change : TroopMember → TroopMember)
    (sameId : ∀ member, (change member).id = member.id)
    (sameCycle : ∀ member, (change member).deploymentId = member.deploymentId) :
    Besetzt troop.members (troop.setMember member.id change).members := by
  obtain ⟨known, active, -⟩ := activeMember?_spec found
  refine ⟨fun other => if other.id = member.id then change other else other, rfl, fun other => ?_, fun other => ?_,
    fun other inside archived => ?_⟩
  · dsimp only
    split
    · exact sameId other
    · rfl
  · dsimp only
    split
    · exact sameCycle other
    · rfl
  · refine if_neg fun same => archived ?_
    rw [List.inj_on_of_nodup_map distinct inside known same]
    exact active

theorem Besetzt.started (untergrenze : ℚ) (members : List TroopMember) : Besetzt members
    (members.map fun member => if member.deploymentId.isNone then member.started untergrenze else member) := by
  refine ⟨_, rfl, fun member => ?_, fun member => ?_, fun member _ archived => ?_⟩
  · split
    · exact started_id untergrenze member
    · rfl
  · split
    · unfold TroopMember.started
      split <;> rfl
    · rfl
  · exact if_neg (by simpa [Option.isNone_iff_eq_none] using archived)

theorem Arbeit.quiet (deployments : troop'.deployments = troop.deployments) (members : troop'.members = troop.members)
    (logs : troop'.pressureLogs = troop.pressureLogs) (kontrollen : troop'.kontrollen = troop.kontrollen) :
    Arbeit troop troop' where
  deployments := deployments
  members := members ▸ .refl _
  pressureLogs := ⟨[], by rw [logs, List.append_nil], List.forall_mem_nil _⟩
  kontrollen := ⟨[], by rw [kontrollen, List.append_nil], List.forall_mem_nil _⟩

theorem Arbeit.pressed (distinct : (memberIds troop).Nodup) {id : Nat} {member : TroopMember}
    (found : troop.activeMember? id = some member) (messung : Messung) (press : ℚ) (note : Option String) (now : Zeit) :
    Arbeit troop (pressed messung member press note now troop) := by
  have active : member ∈ troop.activeMembers := List.mem_of_find?_eq_some found
  have written : Besetzt troop.members (Breathing.pressed messung member press note now troop).members := by
    unfold Breathing.pressed
    split
    · exact .refl _
    · exact .setMember distinct found (fun member => { member with currentPress := some press }) (fun _ => rfl)
        fun _ => rfl
  refine ⟨?_, written, ⟨_, pressureLogs_pressed .., fun log isNew => ?_⟩, [], ?_, List.forall_mem_nil _⟩
  · unfold Breathing.pressed
    split <;> rfl
  · rw [List.mem_singleton.mp isNew]
    exact ⟨member, active, rfl⟩
  · unfold Breathing.pressed
    split <;> exact (List.append_nil _).symm

theorem Arbeit.enddruck (distinct : (memberIds troop).Nodup) {id : Nat} {member : TroopMember}
    (found : troop.activeMember? id = some member) (press : ℚ) :
    Arbeit troop (troop.setMember member.id ({ · with backPress := some press })) where
  deployments := rfl
  members := .setMember distinct found _ (fun _ => rfl) fun _ => rfl
  pressureLogs := ⟨[], (List.append_nil troop.pressureLogs).symm, List.forall_mem_nil _⟩
  kontrollen := ⟨[], (List.append_nil troop.kontrollen).symm, List.forall_mem_nil _⟩

variable (fl) in
theorem Arbeit.objectiveReached (distinct : (memberIds troop).Nodup) {id : Nat} {member : TroopMember}
    (found : troop.activeMember? id = some member) (untergrenze : ℚ) (messung : Messung) (startPress press : ℚ)
    (now : Zeit) : Arbeit troop (objectiveReached fl untergrenze messung member startPress press now troop) := by
  have active : member ∈ troop.activeMembers := List.mem_of_find?_eq_some found
  have written : Besetzt troop.members
      (troop.setMember member.id (·.atObjective fl untergrenze startPress press now)).members :=
    .setMember distinct found _ (fun _ => rfl) fun _ => rfl
  refine ⟨rfl, written, ⟨_, rfl, fun log isNew => ?_⟩, [], (List.append_nil _).symm, List.forall_mem_nil _⟩
  rw [List.mem_singleton.mp isNew]
  exact ⟨member, active, rfl⟩

theorem Arbeit.checked {logged : BreathingTroop} (work : Arbeit troop logged) (meldung : Kontrollmeldung) (stufe : Stufe)
    (press : ℚ) (id : Nat) : Arbeit troop (checked umgebung meldung stufe press id logged) := by
  obtain ⟨new, written, current⟩ := work.kontrollen
  refine ⟨work.deployments, work.members, work.pressureLogs,
    new ++ [kontrolle umgebung meldung stufe .funk (some press) (some id) logged], ?_, fun control isNew => ?_⟩
  · unfold Breathing.checked
    rw [written, List.append_assoc]
  · rcases List.mem_append.mp isNew with old | last
    · exact current control old
    · rw [List.mem_singleton.mp last]
      rfl

theorem Effect.arbeit (distinct : (Breathing.memberIds troop).Nodup)
    (effect : Effect fl keys umgebung operation troop troop') :
    Arbeit troop troop' ∨ ∃ filled task location planned preset,
      troop' = redeployed keys filled task location planned preset troop := by
  cases effect with
  | start => exact Or.inl ⟨rfl, .started _ _, ⟨[], (List.append_nil _).symm, List.forall_mem_nil _⟩, ⟨[], (List.append_nil _).symm, List.forall_mem_nil _⟩⟩
  | redeploy skipped data task location planned preset filled => exact Or.inr ⟨filled, task, location, planned, preset, rfl⟩
  | druck messung note reason press member pressure inside found =>
    exact Or.inl (.pressed distinct found ..)
  | funk meldung stufe value press id member stage art reported pressure inside named found =>
    exact Or.inl ((Arbeit.pressed distinct found ..).checked ..)
  | keinKontakt meldung stufe =>
    refine Or.inl ⟨rfl, .refl _, ⟨[], (List.append_nil _).symm, List.forall_mem_nil _⟩, _, rfl, fun control isNew => ?_⟩
    rw [List.mem_singleton.mp isNew]
    rfl
  | einsatzziel messung press member startPress pressure inside found =>
    exact Or.inl (.objectiveReached fl distinct found ..)
  | enddruck messung press member pressure out found =>
    exact Or.inl (.enddruck distinct found press)
  | repeated | status | funkverlust | declared | notfall | notfallAufheben | meldung | ackMaxTime | ackWithdraw =>
    exact Or.inl (.quiet rfl rfl rfl rfl)

theorem Arbeit.memberIds (work : Arbeit troop troop') : Breathing.memberIds troop' = Breathing.memberIds troop := by
  obtain ⟨change, mapped, sameId, -, -⟩ := work.members
  unfold Breathing.memberIds
  rw [mapped, memberIds_map sameId]

theorem Arbeit.zyklen (work : Arbeit troop troop') : troop'.zyklen = troop.zyklen := by
  unfold BreathingTroop.zyklen
  rw [work.deployments]

theorem Geordnet.arbeit {stand stand' : Stand} (ordered : Geordnet stand) (work : Arbeit stand.troop stand'.troop)
    (member : stand.next.member ≤ stand'.next.member) (deployment : stand.next.deployment ≤ stand'.next.deployment) :
    Geordnet stand' where
  keyed := by
    refine ⟨?_, fun id known => ?_⟩
    · rw [work.memberIds]
      exact ordered.keyed.distinct
    · rw [work.memberIds] at known
      exact (ordered.keyed.fresh id known).trans_le member
  logged := by
    obtain ⟨new, written, current⟩ := work.pressureLogs
    intro log inside
    rw [work.memberIds]
    rw [written] at inside
    rcases List.mem_append.mp inside with old | isNew
    · exact ordered.logged log old
    · obtain ⟨owner, active, owns⟩ := current log isNew
      rw [owns]
      exact List.mem_map_of_mem (mem_activeMembers.mp active).1
  numbered := by
    rw [work.deployments]
    exact ordered.numbered
  distinct := by
    rw [work.deployments]
    exact ordered.distinct
  fresh := by
    intro archived inside
    rw [work.deployments] at inside
    exact (ordered.fresh archived inside).trans_le deployment
  members := by
    obtain ⟨change, mapped, -, sameCycle, -⟩ := work.members
    intro changed inside
    rw [mapped] at inside
    obtain ⟨original, known, rfl⟩ := List.mem_map.mp inside
    rw [work.zyklen, sameCycle]
    exact ordered.members original known
  kontrollen := by
    obtain ⟨new, written, current⟩ := work.kontrollen
    intro control inside
    rw [work.zyklen]
    rw [written] at inside
    rcases List.mem_append.mp inside with old | isNew
    · exact ordered.kontrollen control old
    · rw [current control isNew]
      exact List.mem_cons_self ..

theorem archive_deploymentId (id : Nat) (member : TroopMember) :
    (member.archive id).deploymentId = some (member.deploymentId.getD id) := by
  unfold TroopMember.archive
  cases archived : member.deploymentId with
  | none => rfl
  | some key => simp [archived]

theorem kontrolle_archive_deploymentId (id : Nat) (control : BreathingKontrolle) :
    (control.archive id).deploymentId = some (control.deploymentId.getD id) := by
  unfold BreathingKontrolle.archive
  cases archived : control.deploymentId with
  | none => rfl
  | some key => simp [archived]

section Redeployed

variable (filled : List CheckedMember) (task location : Option String) (planned : Option Nat) (preset : Option String)

theorem zyklen_redeployed : (redeployed keys filled task location planned preset troop).zyklen =
    troop.zyklen ++ [some keys.deployment] := by
  simp [BreathingTroop.zyklen, redeployed, archived]

theorem mem_zyklen_redeployed {z : Option Nat} (known : z ∈ troop.zyklen) :
    some (z.getD keys.deployment) ∈ (redeployed keys filled task location planned preset troop).zyklen := by
  rw [zyklen_redeployed]
  cases z with
  | none => exact List.mem_append_right _ (List.mem_singleton_self _)
  | some id => exact List.mem_append_left _ known

theorem Geordnet.redeployed {stand stand' : Stand} (ordered : Geordnet stand)
    (moved : stand'.troop = redeployed keys filled task location planned preset stand.troop) (keyed : Keyed stand')
    (logged : Logged stand'.troop) (next : stand.next.deployment ≤ keys.deployment)
    (used : keys.deployment < stand'.next.deployment) : Geordnet stand' where
  keyed := keyed
  logged := logged
  numbered := by
    rw [moved]
    exact ordered.numbered.append rfl
  distinct := by
    rw [moved]
    show ((stand.troop.deployments ++ [archived keys.deployment stand.troop]).map (·.id)).Nodup
    rw [List.map_append, List.map_singleton, List.nodup_append]
    refine ⟨ordered.distinct, List.nodup_singleton _, fun id known id' isNew => ?_⟩
    obtain ⟨deployment, inside, rfl⟩ := List.mem_map.mp known
    rw [List.mem_singleton.mp isNew]
    exact ((ordered.fresh deployment inside).trans_le next).ne
  fresh := by
    intro deployment inside
    rw [moved] at inside
    rcases List.mem_append.mp inside with old | isNew
    · exact ((ordered.fresh deployment old).trans_le next).trans used
    · rw [List.mem_singleton.mp isNew]
      exact used
  members := by
    intro member inside
    rw [moved] at inside ⊢
    rcases List.mem_append.mp inside with old | live
    · obtain ⟨original, known, rfl⟩ := List.mem_map.mp old
      rw [archive_deploymentId]
      exact mem_zyklen_redeployed filled task location planned preset (ordered.members original known)
    · rw [(liveMembers_fresh live).1]
      exact List.mem_cons_self ..
  kontrollen := by
    intro control inside
    rw [moved] at inside ⊢
    obtain ⟨original, known, rfl⟩ := List.mem_map.mp inside
    rw [kontrolle_archive_deploymentId]
    exact mem_zyklen_redeployed filled task location planned preset (ordered.kontrollen original known)

end Redeployed

theorem skip_le (next skipped : Schluessel) :
    next.member ≤ (next.skip skipped).member ∧ next.deployment ≤ (next.skip skipped).deployment :=
  ⟨Nat.le_add_right _ _, Nat.le_add_right _ _⟩

theorem le_after (used : Schluessel) (troop troop' : BreathingTroop) :
    used.member ≤ (used.after troop troop').member ∧ used.deployment ≤ (used.after troop troop').deployment :=
  ⟨Nat.le_add_right _ _, Nat.le_add_right _ _⟩

theorem step_ok {stand : Stand} {request : Request}
    (ok : apply fl (stand.next.skip request.operation.skipped) request stand.troop = .ok troop) :
    step fl stand request = ⟨troop, (stand.next.skip request.operation.skipped).after stand.troop troop⟩ := by
  simp only [step, ok]

theorem step_error {stand : Stand} {request : Request} {fehler : Fehler}
    (raised : apply fl (stand.next.skip request.operation.skipped) request stand.troop = .error fehler) :
    step fl stand request = stand := by
  simp only [step, raised]

variable (fl) in
theorem step_geordnet {stand : Stand} (ordered : Geordnet stand) (request : Request) :
    Geordnet (step fl stand request) := by
  have keyed := step_keyed fl ordered.keyed request
  cases result : apply fl (stand.next.skip request.operation.skipped) request stand.troop with
  | error fehler =>
    rw [step_error result]
    exact ordered
  | ok next =>
    have effect := apply_effect result
    have skipped := skip_le stand.next request.operation.skipped
    have after := le_after (stand.next.skip request.operation.skipped) stand.troop next
    rw [step_ok result] at keyed ⊢
    rcases effect.arbeit ordered.keyed.distinct with work | ⟨filled, task, location, planned, preset, moved⟩
    · exact ordered.arbeit work (skipped.1.trans after.1) (skipped.2.trans after.2)
    · refine ordered.redeployed filled task location planned preset moved keyed (ordered.logged.effect effect)
        skipped.2 ?_
      subst moved
      simp [Schluessel.after, redeployed]

def ErneutData.request (data : ErneutData) (skipped : Schluessel) : Request :=
  ⟨{ uhr := fun _ => 0 }, .redeploy skipped data.membersData data.taskText data.locationText data.plannedDurationMin
    data.bottlePreset⟩

/-- An access is a request, work on the open cycle, a redeployment with the
fields of its form, or a deletion. -/
inductive Zugegriffen (fl : Gleitkomma) (stand : Stand) : Zugriff → Stand → Prop where
  | request (request : Request) : Zugegriffen fl stand (.request request) (step fl stand request)
  | work (zugriff : Zugriff) (stand' : Stand) (pure : ∀ zyklus, zugriff.bereinigt zyklus = zyklus)
      (work : Arbeit stand.troop stand'.troop)
      (next : stand.next.member ≤ stand'.next.member ∧ stand.next.deployment ≤ stand'.next.deployment) :
      Zugegriffen fl stand zugriff stand'
  | erneut (skipped : Schluessel) (data : ErneutData) (form : ErneutForm) (userId : Nat) :
      Zugegriffen fl stand (.erneutEinsetzen none skipped data form userId)
        { step fl stand (data.request skipped) with
          troop := form.write userId (step fl stand (data.request skipped)).troop }
  | mitglied (memberId : Nat) : Zugegriffen fl stand (.mitgliedGeloescht memberId)
      { stand with troop := stand.troop.ohneMitglied memberId }
  | geraet (userId : Nat) : Zugegriffen fl stand (.geraetGeloescht userId)
      { stand with troop := stand.troop.ohneBenutzer userId }

variable (fl) in
theorem zugreifen_cases (stand : Stand) (zugriff : Zugriff) : Zugegriffen fl stand zugriff (zugreifen fl stand zugriff) := by
  cases zugriff with
  | request request => exact .request request
  | erneutEinsetzen ausfall skipped data form userId =>
    have next (later : BreathingTroop) :
        stand.next.member ≤ ((stand.next.skip skipped).after stand.troop later).member ∧
          stand.next.deployment ≤ ((stand.next.skip skipped).after stand.troop later).deployment :=
      ⟨(skip_le ..).1.trans (le_after ..).1, (skip_le ..).2.trans (le_after ..).2⟩
    unfold zugreifen
    dsimp only
    rw [served_redeployTroopView]
    cases result : data.redeploy (stand.next.skip skipped) stand.troop with
    | error fehler =>
      exact .work _ _ (fun _ => rfl) (.quiet rfl rfl rfl rfl) (next _)
    | ok redeployed =>
      cases ausfall with
      | some point => exact .work _ _ (fun _ => rfl) (.quiet rfl rfl rfl rfl) (next _)
      | none =>
        have done : step fl stand (data.request skipped) =
            ⟨redeployed, (stand.next.skip skipped).after stand.troop redeployed⟩ := step_ok result
        have endpoint := @Zugegriffen.erneut fl stand skipped data form userId
        rw [done] at endpoint
        exact endpoint
  | details details userId label =>
    have quiet : Arbeit stand.troop (details.write userId label stand.troop) := .quiet rfl rfl rfl rfl
    exact .work _ { stand with troop := _ } (fun _ => rfl) quiet ⟨le_refl _, le_refl _⟩
  | standort locationText =>
    have quiet : Arbeit stand.troop { stand.troop with locationText := orNone (some (strip locationText)) } :=
      .quiet rfl rfl rfl rfl
    exact .work _ { stand with troop := _ } (fun _ => rfl) quiet ⟨le_refl _, le_refl _⟩
  | auftrag taskText =>
    have quiet : Arbeit stand.troop { stand.troop with taskText := orNone (some (strip taskText)) } :=
      .quiet rfl rfl rfl rfl
    exact .work _ { stand with troop := _ } (fun _ => rfl) quiet ⟨le_refl _, le_refl _⟩
  | mitgliedGeloescht memberId => exact .mitglied memberId
  | geraetGeloescht userId => exact .geraet userId

theorem forget_id (memberId : Nat) (member : TroopMember) :
    (member.forget memberId).id = member.id ∧ (member.forget memberId).deploymentId = member.deploymentId := by
  unfold TroopMember.forget
  split <;> exact ⟨rfl, rfl⟩

theorem log_forget_owner (memberId : Nat) (log : PressureLog) :
    (log.forget memberId).troopMemberId = log.troopMemberId := by
  unfold PressureLog.forget
  split <;> rfl

theorem log_forgetUser_owner (userId : Nat) (log : PressureLog) :
    (log.forgetUser userId).troopMemberId = log.troopMemberId := by
  unfold PressureLog.forgetUser
  split <;> rfl

structure Bereinigt (clear : TroopMember → TroopMember) (clearLog : PressureLog → PressureLog)
    (troop troop' : BreathingTroop) : Prop where
  sameId : ∀ member, (clear member).id = member.id
  sameCycle : ∀ member, (clear member).deploymentId = member.deploymentId
  sameOwner : ∀ log, (clearLog log).troopMemberId = log.troopMemberId
  members : troop'.members = troop.members.map clear
  pressureLogs : troop'.pressureLogs = troop.pressureLogs.map clearLog
  deployments : troop'.deployments = troop.deployments
  kontrollen : troop'.kontrollen = troop.kontrollen

theorem bereinigt_ohneMitglied (memberId : Nat) (troop : BreathingTroop) :
    Bereinigt (·.forget memberId) (·.forget memberId) troop (troop.ohneMitglied memberId) :=
  ⟨fun member => (forget_id memberId member).1, fun member => (forget_id memberId member).2,
    log_forget_owner memberId, rfl, rfl, rfl, rfl⟩

theorem bereinigt_ohneBenutzer (userId : Nat) (troop : BreathingTroop) :
    Bereinigt id (·.forgetUser userId) troop (troop.ohneBenutzer userId) :=
  ⟨fun _ => rfl, fun _ => rfl, log_forgetUser_owner userId, (List.map_id _).symm, rfl, rfl, rfl⟩

theorem Geordnet.bereinigt {stand : Stand} (ordered : Geordnet stand) {clear : TroopMember → TroopMember}
    {clearLog : PressureLog → PressureLog} (cleared : Bereinigt clear clearLog stand.troop troop') :
    Geordnet { stand with troop := troop' } where
  keyed := by
    have same : memberIds troop' = memberIds stand.troop := by
      rw [memberIds, cleared.members, memberIds_map cleared.sameId]
      rfl
    refine ⟨?_, fun id known => ordered.keyed.fresh id ?_⟩
    · rw [same]
      exact ordered.keyed.distinct
    · rw [← same]
      exact known
  logged := by
    intro log inside
    rw [cleared.pressureLogs] at inside
    obtain ⟨original, known, rfl⟩ := List.mem_map.mp inside
    rw [memberIds, cleared.members, memberIds_map cleared.sameId, cleared.sameOwner]
    exact ordered.logged original known
  numbered := by
    rw [cleared.deployments]
    exact ordered.numbered
  distinct := by
    rw [cleared.deployments]
    exact ordered.distinct
  fresh := by
    rw [cleared.deployments]
    exact ordered.fresh
  members := by
    intro member inside
    rw [cleared.members] at inside
    obtain ⟨original, known, rfl⟩ := List.mem_map.mp inside
    rw [cleared.sameCycle, BreathingTroop.zyklen, cleared.deployments]
    exact ordered.members original known
  kontrollen := by
    rw [cleared.kontrollen, BreathingTroop.zyklen, cleared.deployments]
    exact ordered.kontrollen

variable (fl) in
theorem zugreifen_geordnet {stand : Stand} (ordered : Geordnet stand) (zugriff : Zugriff) :
    Geordnet (zugreifen fl stand zugriff) := by
  have access := zugreifen_cases fl stand zugriff
  generalize zugreifen fl stand zugriff = later at access
  cases access with
  | request request => exact step_geordnet fl ordered request
  | work _ _ _ work next => exact ordered.arbeit work next.1 next.2
  | erneut skipped data form userId =>
    exact (step_geordnet fl ordered (data.request skipped)).arbeit (.quiet rfl rfl rfl rfl) (le_refl _) (le_refl _)
  | mitglied memberId => exact ordered.bereinigt (bereinigt_ohneMitglied memberId stand.troop)
  | geraet userId => exact ordered.bereinigt (bereinigt_ohneBenutzer userId stand.troop)

theorem find?_map_owner (change : TroopMember → TroopMember) (sameId : ∀ member, (change member).id = member.id)
    (owner : Nat) (members : List TroopMember) :
    (members.map change).find? (·.id = owner) = (members.find? (·.id = owner)).map change := by
  rw [List.find?_map]
  congr 2
  funext member
  simp only [Function.comp_apply, sameId]

theorem zyklusVon_map {change : TroopMember → TroopMember} (sameId : ∀ member, (change member).id = member.id)
    (sameCycle : ∀ member, (change member).deploymentId = member.deploymentId)
    (mapped : troop'.members = troop.members.map change) {log log' : PressureLog}
    (sameOwner : log'.troopMemberId = log.troopMemberId) : troop'.zyklusVon log' = troop.zyklusVon log := by
  unfold BreathingTroop.zyklusVon BreathingTroop.troopMember
  rw [mapped, sameOwner, find?_map_owner change sameId, Option.bind_map]
  congr 1
  funext member
  exact sameCycle member

theorem zyklusVon_active (distinct : (memberIds troop).Nodup) {member : TroopMember}
    (active : member ∈ troop.activeMembers) {log : PressureLog} (owns : log.troopMemberId = member.id) :
    troop.zyklusVon log = none := by
  have current := inCycle_of_active distinct active owns
  unfold BreathingTroop.inCycle at current
  unfold BreathingTroop.zyklusVon
  cases found : troop.troopMember log with
  | none => rfl
  | some owner => simpa [found] using current

theorem Arbeit.zyklus (work : Arbeit troop troop') (distinct : (Breathing.memberIds troop).Nodup) (id : Nat) :
    troop'.zyklus (some id) = troop.zyklus (some id) := by
  obtain ⟨change, mapped, sameId, sameCycle, fixed⟩ := work.members
  obtain ⟨logs, loggedThen, current⟩ := work.pressureLogs
  obtain ⟨controls, controlled, open_⟩ := work.kontrollen
  have members : Archive.cycle (·.deploymentId) (some id) troop'.members =
      Archive.cycle (·.deploymentId) (some id) troop.members := by
    rw [mapped]
    refine Archive.cycle_map (fun member _ => by rw [sameCycle]) fun member inside archived => ?_
    exact fixed member inside (by simp [archived])
  have pressureLogs : Archive.cycle troop'.zyklusVon (some id) troop'.pressureLogs =
      Archive.cycle troop.zyklusVon (some id) troop.pressureLogs := by
    have same (log : PressureLog) : troop'.zyklusVon log = troop.zyklusVon log :=
      zyklusVon_map sameId sameCycle mapped rfl
    rw [Archive.cycle_congr fun log _ => by rw [same log], loggedThen]
    refine Archive.cycle_append_of_ne fun log isNew => ?_
    obtain ⟨member, active, owns⟩ := current log isNew
    rw [zyklusVon_active distinct active owns]
    exact nofun
  have kontrollen : Archive.cycle (·.deploymentId) (some id) troop'.kontrollen =
      Archive.cycle (·.deploymentId) (some id) troop.kontrollen := by
    rw [controlled]
    refine Archive.cycle_append_of_ne fun control isNew => ?_
    rw [open_ control isNew]
    exact nofun
  exact Zyklus.ext members pressureLogs kontrollen

theorem getD_eq_some_iff {key id : Nat} (other : id ≠ key) {z : Option Nat} : some (z.getD key) = some id ↔ z = some id := by
  cases z with
  | none => simp [other.symm]
  | some archived => rfl

theorem zyklus_redeployed (logged : Logged troop) (filled : List CheckedMember) (task location : Option String)
    (planned : Option Nat) (preset : Option String) {id : Nat} (other : id ≠ keys.deployment) :
    (redeployed keys filled task location planned preset troop).zyklus (some id) = troop.zyklus (some id) := by
  have members : Archive.cycle (·.deploymentId) (some id)
      (troop.members.map (·.archive keys.deployment) ++ liveMembers keys.member filled) =
        Archive.cycle (·.deploymentId) (some id) troop.members := by
    rw [Archive.cycle_append_of_ne fun member live => by simp [(liveMembers_fresh live).1]]
    refine Archive.cycle_map (fun member _ => ?_) fun member _ archived => ?_
    · rw [archive_deploymentId, getD_eq_some_iff other]
    · simp [TroopMember.archive, archived]
  have pressureLogs : Archive.cycle (redeployed keys filled task location planned preset troop).zyklusVon (some id)
      troop.pressureLogs = Archive.cycle troop.zyklusVon (some id) troop.pressureLogs := by
    refine Archive.cycle_congr fun log inside => ?_
    obtain ⟨owner, known, owns⟩ := List.mem_map.mp (logged log inside)
    have found : (troop.members.find? (·.id = log.troopMemberId)).isSome :=
      List.find?_isSome.mpr ⟨owner, known, by simp [owns]⟩
    obtain ⟨member, isOwner⟩ := Option.isSome_iff_exists.mp found
    have archivedOwner : (redeployed keys filled task location planned preset troop).troopMember log =
        some (member.archive keys.deployment) := by
      unfold BreathingTroop.troopMember redeployed
      rw [List.find?_append, find?_map_owner _ (archive_id keys.deployment), isOwner]
      rfl
    unfold BreathingTroop.zyklusVon
    rw [archivedOwner, BreathingTroop.troopMember, isOwner, Option.bind_some, Option.bind_some, archive_deploymentId,
      getD_eq_some_iff other]
  have kontrollen : Archive.cycle (·.deploymentId) (some id) (troop.kontrollen.map (·.archive keys.deployment)) =
      Archive.cycle (·.deploymentId) (some id) troop.kontrollen := by
    refine Archive.cycle_map (fun control _ => ?_) fun control _ archived => ?_
    · rw [kontrolle_archive_deploymentId, getD_eq_some_iff other]
    · simp [BreathingKontrolle.archive, archived]
  exact Zyklus.ext members pressureLogs kontrollen

theorem Bereinigt.zyklus {clear : TroopMember → TroopMember} {clearLog : PressureLog → PressureLog}
    (cleared : Bereinigt clear clearLog troop troop') (z : Option Nat) :
    troop'.zyklus z = ⟨(troop.zyklus z).members.map clear, (troop.zyklus z).pressureLogs.map clearLog,
      (troop.zyklus z).kontrollen⟩ := by
  have members : (troop'.zyklus z).members = (troop.zyklus z).members.map clear := by
    show Archive.cycle _ z troop'.members = _
    rw [cleared.members]
    exact Archive.cycle_map_kept fun member _ => cleared.sameCycle member
  have pressureLogs : (troop'.zyklus z).pressureLogs = (troop.zyklus z).pressureLogs.map clearLog := by
    show Archive.cycle _ z troop'.pressureLogs = _
    rw [cleared.pressureLogs]
    exact Archive.cycle_map_kept fun log _ =>
      zyklusVon_map cleared.sameId cleared.sameCycle cleared.members (cleared.sameOwner log)
  have kontrollen : (troop'.zyklus z).kontrollen = (troop.zyklus z).kontrollen := by
    show Archive.cycle _ z troop'.kontrollen = _
    rw [cleared.kontrollen]
    rfl
  exact Zyklus.ext members pressureLogs kontrollen

variable (fl) in
theorem step_zyklus {stand : Stand} (ordered : Geordnet stand) (request : Request) {deployment : BreathingDeployment}
    (archived : deployment ∈ stand.troop.deployments) :
    deployment ∈ (step fl stand request).troop.deployments ∧
      (step fl stand request).troop.zyklus (some deployment.id) = stand.troop.zyklus (some deployment.id) := by
  rcases step_effect stand request with ⟨same, -⟩ | effect
  · rw [same]
    exact ⟨archived, rfl⟩
  · rcases effect.arbeit ordered.keyed.distinct with work | ⟨filled, task, location, planned, preset, moved⟩
    · rw [work.deployments]
      exact ⟨archived, work.zyklus ordered.keyed.distinct deployment.id⟩
    · have below := (ordered.fresh deployment archived).trans_le (skip_le stand.next request.operation.skipped).2
      rw [moved]
      exact ⟨List.mem_append_left _ archived,
        zyklus_redeployed ordered.logged filled task location planned preset below.ne⟩

variable (fl) in
theorem zugreifen_zyklus {stand : Stand} (ordered : Geordnet stand) (zugriff : Zugriff)
    {deployment : BreathingDeployment} (archived : deployment ∈ stand.troop.deployments) :
    deployment ∈ (zugreifen fl stand zugriff).troop.deployments ∧
      (zugreifen fl stand zugriff).troop.zyklus (some deployment.id) =
        zugriff.bereinigt (stand.troop.zyklus (some deployment.id)) := by
  have access := zugreifen_cases fl stand zugriff
  generalize zugreifen fl stand zugriff = later at access
  cases access with
  | request request => exact step_zyklus fl ordered request archived
  | work _ _ pure work next =>
    rw [work.deployments, pure]
    exact ⟨archived, work.zyklus ordered.keyed.distinct deployment.id⟩
  | erneut skipped data form userId => exact step_zyklus fl ordered (data.request skipped) archived
  | mitglied memberId =>
    exact ⟨archived, (bereinigt_ohneMitglied memberId stand.troop).zyklus (some deployment.id)⟩
  | geraet userId =>
    have cleared := (bereinigt_ohneBenutzer userId stand.troop).zyklus (some deployment.id)
    rw [List.map_id] at cleared
    exact ⟨archived, cleared⟩

theorem createTroop_open {data : TroopData} (created : createTroop keys data = .ok troop) :
    troop.deployments = [] ∧ troop.kontrollen = [] ∧ ∀ member ∈ troop.members, member.deploymentId = none := by
  unfold createTroop at created
  split at created
  · cases created
  · next filled valid =>
    cases created
    exact ⟨rfl, rfl, fun member live => (liveMembers_fresh live).1⟩

theorem createTroop_geordnet {data : TroopData} (created : createTroop keys data = .ok troop) :
    Geordnet (born keys troop) := by
  have kept := createTroop_kept created
  obtain ⟨deployments, kontrollen, members⟩ := createTroop_open created
  have noDeployment (deployment : BreathingDeployment) : deployment ∉ troop.deployments := by
    rw [deployments]
    exact List.not_mem_nil
  have noKontrolle (kontrolle : BreathingKontrolle) : kontrolle ∉ troop.kontrollen := by
    rw [kontrollen]
    exact List.not_mem_nil
  refine ⟨kept.keyed, kept.logged, ?_, ?_, fun deployment inside => absurd inside (noDeployment deployment),
    fun member inside => ?_, fun kontrolle inside => absurd inside (noKontrolle kontrolle)⟩
  · show Relational.Numbered _ troop.deployments
    rw [deployments]
    exact .nil
  · show (troop.deployments.map _).Nodup
    rw [deployments]
    exact List.nodup_nil
  · rw [members member inside]
    exact List.mem_cons_self ..

theorem Geordnet.zugeordnet {stand : Stand} (ordered : Geordnet stand) : Zugeordnet stand.troop where
  lfdNr := ordered.numbered
  zyklen := by
    unfold BreathingTroop.zyklen
    refine List.nodup_cons.mpr ⟨by simp, ?_⟩
    have keys := ordered.distinct.map (Option.some_injective Nat)
    rwa [List.map_map] at keys
  members := fun member inside => Archive.existsUnique_cycle inside (ordered.members member inside)
  pressureLogs := by
    intro log inside
    refine Archive.existsUnique_cycle inside ?_
    cases found : stand.troop.troopMember log with
    | none => simp [BreathingTroop.zyklusVon, found, BreathingTroop.zyklen]
    | some owner =>
      rw [BreathingTroop.zyklusVon, found]
      exact ordered.members owner (List.mem_of_find?_eq_some found)
  kontrollen := fun control inside => Archive.existsUnique_cycle inside (ordered.kontrollen control inside)

theorem redeployTroopDb_raises {ausnahme : Ausnahme}
    (raised : ((redeployTroopDb ausfall keys data).exec (.load troop)).1 = .error ausnahme) :
    ((redeployTroopDb ausfall keys data).exec (.load troop)).2 = .load troop := by
  rw [exec_redeployTroopDb] at raised ⊢
  cases result : data.redeploy keys troop with
  | error fehler => rfl
  | ok next =>
    simp only [result] at raised ⊢
    split at raised
    · next failed => rw [if_pos failed]
    · cases raised

variable (fl) in
theorem run_zyklus {stand : Stand} (ordered : Geordnet stand) {deployment : BreathingDeployment}
    (archived : deployment ∈ stand.troop.deployments) (danach : List Zugriff) :
    deployment ∈ (Transition.run (zugreifen fl) stand danach).troop.deployments ∧
      (Transition.run (zugreifen fl) stand danach).troop.zyklus (some deployment.id) =
        danach.foldl (fun zyklus zugriff => zugriff.bereinigt zyklus) (stand.troop.zyklus (some deployment.id)) := by
  induction danach generalizing stand with
  | nil => exact ⟨archived, rfl⟩
  | cons zugriff rest ih =>
    obtain ⟨kept, written⟩ := zugreifen_zyklus fl ordered zugriff archived
    have later := ih (zugreifen_geordnet fl ordered zugriff) kept
    rw [written] at later
    exact later

/-- Over every run the archive is numbered without gaps, every record belongs
to one cycle, an archived cycle loses references to deleted persons and nothing
else, and a redeployment that raises changes nothing. -/
theorem archiv_bestand (fl : Gleitkomma) (keys : Schluessel) (data : TroopData) (troop : BreathingTroop)
    (davor danach : List Zugriff) (created : createTroop keys data = .ok troop) :
    let stand := Transition.run (zugreifen fl) (born keys troop) davor
    let spaeter := Transition.run (zugreifen fl) stand danach
    Zugeordnet stand.troop ∧
      (∀ deployment ∈ stand.troop.deployments, deployment ∈ spaeter.troop.deployments ∧
        spaeter.troop.zyklus (some deployment.id) =
          danach.foldl (fun zyklus zugriff => zugriff.bereinigt zyklus) (stand.troop.zyklus (some deployment.id))) ∧
      ∀ ausfall given eingabe ausnahme,
        ((redeployTroopDb ausfall given eingabe).exec (.load stand.troop)).1 = .error ausnahme →
          ((redeployTroopDb ausfall given eingabe).exec (.load stand.troop)).2 = .load stand.troop := by
  intro stand spaeter
  have ordered : Geordnet stand :=
    Transition.run_invariant Geordnet (fun _ zugriff held => zugreifen_geordnet fl held zugriff)
      (createTroop_geordnet created) davor
  exact ⟨ordered.zugeordnet, fun deployment archived => run_zyklus fl ordered archived danach,
    fun _ _ _ _ raised => redeployTroopDb_raises raised⟩

def sampleZyklus : List Zugriff :=
  [.request (requestAt 0 (.start none none)), .request (requestAt (minuten 20) (.status "zurueck" none)),
    .request (requestAt (minuten 60) (.status "erholt" none)),
    .erneutEinsetzen none ⟨0, 0⟩ { membersData := sampleData.membersData } {} 1]

theorem archiv_bestand_zyklus :
    Zugeordnet (Transition.run (zugreifen exakt) (born ⟨1, 1⟩ sampleTroop) sampleZyklus).troop :=
  (archiv_bestand exakt ⟨1, 1⟩ sampleData sampleTroop sampleZyklus [] (by rfl)).1

/-- The deletion of a member of the archived crew writes to the archive. -/
theorem archiv_mitgliedGeloescht :
    ∃ deployment ∈ (Transition.run (zugreifen exakt) (born ⟨1, 1⟩ sampleTroop) sampleZyklus).troop.deployments,
      (Transition.run (zugreifen exakt) (born ⟨1, 1⟩ sampleTroop)
          (sampleZyklus ++ [.mitgliedGeloescht 2])).troop.zyklus (some deployment.id) ≠
        (Transition.run (zugreifen exakt) (born ⟨1, 1⟩ sampleTroop) sampleZyklus).troop.zyklus (some deployment.id) := by
  decide +kernel

end Einsatzcockpit.Breathing
