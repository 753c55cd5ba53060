import Einsatzcockpit.Alarm.Sound
import Einsatzcockpit.Lib.Custody
import Mathlib.Data.List.Dedup

namespace Einsatzcockpit.Alarm

open Transition

def namensraum (key : String) : String := String.ofList (key.toList.takeWhile (· ≠ ':'))

def istNachalarm (namespace_ : String) (incidentId : Nat) (orgId : Option Nat) (job : IncidentAlarmJob) : Bool :=
  job.incidentId == incidentId && job.orgId == orgId && job.variant != "" &&
    s!"nach:{namespace_}:".toList.isPrefixOf job.variant.toList

def nachalarme (namespace_ : String) (incidentId : Nat) (orgId : Option Nat) (db : Db) : List IncidentAlarmJob :=
  db.jobs.filter (istNachalarm namespace_ incidentId orgId)

def eintrag (job : IncidentAlarmJob) : Channel × List String := (job.channel, job.context.codes)

def neueCodes (incidentId : Nat) (orgId : Option Nat) (key : String) (codes : List String) (db : Db) : List String :=
  (codes.dedup.filter (· ∉ (nachalarme (namensraum key) incidentId orgId db).flatMap (·.context.codes))).insertionSort
    (· ≤ ·)

theorem mem_neueCodes {incidentId : Nat} {orgId : Option Nat} {key : String} {codes : List String} {db : Db}
    {code : String} : code ∈ neueCodes incidentId orgId key codes db ↔
      code ∈ codes ∧ ∀ job ∈ nachalarme (namensraum key) incidentId orgId db, code ∉ job.context.codes := by
  simp [neueCodes, List.mem_insertionSort]

section Enqueue

variable (umgebung : Umgebung)

def nachalarmJob (now : Zeit) (incident : Incident) (orgId : Option Nat) (key : String) (codes : List String)
    (source baseUrl pushUrl grund : Option String) (channel : Channel) : IncidentAlarmJob :=
  newJob umgebung now incident orgId (nachalarmVariant umgebung (namensraum key) codes)
    { newContext umgebung incident.id source baseUrl pushUrl grund with nachalarmierung := true, codes } channel

/-- The rows `enqueue_nachalarmierung` reads. -/
def folgeauftraege (incidentId : Nat) (orgId : Option Nat) (db : Db) : List IncidentAlarmJob :=
  db.jobs.filter fun job => job.incidentId == incidentId && job.orgId == orgId && job.variant != ""

theorem nachalarme_eq (namespace_ : String) (incidentId : Nat) (orgId : Option Nat) (db : Db) :
    (folgeauftraege incidentId orgId db).filter (fun job => s!"nach:{namespace_}:".toList.isPrefixOf job.variant.toList) =
      nachalarme namespace_ incidentId orgId db := by
  rw [folgeauftraege, List.filter_filter, nachalarme]
  refine List.filter_congr fun job _ => ?_
  rw [istNachalarm, Bool.and_comm]

def offeneKanaele (incidentId : Nat) (orgId : Option Nat) (variant : String) (db : Db) : List Channel :=
  channels.filter fun channel =>
    !(folgeauftraege incidentId orgId db).any fun job => job.channel == channel && job.variant == variant

variable {now : Zeit} {incident : Incident} {orgId : Option Nat} {key : String} {codes : List String}
  {source baseUrl pushUrl grund : Option String} {db : Db}

theorem enqueueNachalarmierung_cases {db' : Db} {created : Bool}
    (added : enqueueNachalarmierung umgebung now incident orgId key codes source baseUrl pushUrl grund db =
      some (created, db')) :
    let neue := neueCodes incident.id orgId key codes db
    (neue = [] ∧ db' = db) ∨ neue ≠ [] ∧
      db' = (offeneKanaele incident.id orgId (nachalarmVariant umgebung (namensraum key) neue) db).foldl
        (fun db channel =>
          addJob (nachalarmJob umgebung now incident orgId key neue source baseUrl pushUrl grund channel) db) db := by
  intro neue
  have same : neue = (codes.dedup.filter (· ∉ ((folgeauftraege incident.id orgId db).filter fun job =>
      s!"nach:{namensraum key}:".toList.isPrefixOf job.variant.toList).flatMap (·.context.codes))).insertionSort
        (· ≤ ·) := by
    rw [nachalarme_eq]
    rfl
  unfold enqueueNachalarmierung at added
  split at added
  · cases added
  · dsimp only at added
    split at added
    · next empty =>
      cases added
      exact Or.inl ⟨same.trans empty, rfl⟩
    · next some_ =>
      cases added
      refine Or.inr ⟨fun empty => some_ (same.symm.trans empty), ?_⟩
      rw [same]
      rfl

theorem enqueueNachalarmierung_accepts {db' : Db} {created : Bool}
    (added : enqueueNachalarmierung umgebung now incident orgId key codes source baseUrl pushUrl grund db =
      some (created, db')) : (db.incidents.any fun row => row.id == incident.id && row.primaryOrgId == orgId) = true := by
  unfold enqueueNachalarmierung at added
  split at added
  · cases added
  · next accepted => simpa using accepted

theorem enqueueNachalarmierung_accepted (member : incident ∈ db.incidents)
    (ofOrg : incident.primaryOrgId = orgId) :
    ∃ result, enqueueNachalarmierung umgebung now incident orgId key codes source baseUrl pushUrl grund db =
      some result := by
  have accepted : (db.incidents.any fun row => row.id == incident.id && row.primaryOrgId == orgId) = true :=
    List.any_eq_true.mpr ⟨incident, member, by simp [ofOrg]⟩
  unfold enqueueNachalarmierung
  rw [accepted]
  dsimp only
  split
  · next refused => cases refused
  · split
    · exact ⟨_, rfl⟩
    · exact ⟨_, rfl⟩

def kanalname : Channel → String
  | .sms => "sms"
  | .push => "push"
  | .teams => "teams"
  | .mail => "mail"

theorem toList_key (start name variant : String) :
    (start ++ name ++ ":" ++ variant).toList = start.toList ++ name.toList ++ ':' :: variant.toList := by
  simp [String.toList_append]

theorem eventKey_ends (incident : Incident) (orgId : Option Nat) (channel : Channel) (variant : String) :
    ∃ start, (eventKey umgebung incident orgId channel variant).toList =
      start ++ (kanalname channel).toList ++ ':' :: variant.toList := by
  cases channel with
  | sms | push | teams | mail =>
    unfold eventKey
    dsimp only
    split <;> exact ⟨_, toList_key _ _ variant⟩

theorem kanalname_suffix {channel other : Channel} (suffix : (kanalname channel).toList <:+ (kanalname other).toList) :
    channel = other := by
  revert suffix
  cases channel <;> cases other <;> decide

theorem eventKey_inj {variant : String} {channel other : Channel}
    (same : eventKey umgebung incident orgId channel variant = eventKey umgebung incident orgId other variant) :
    channel = other := by
  obtain ⟨start, ends⟩ := eventKey_ends umgebung incident orgId channel variant
  obtain ⟨start', ends'⟩ := eventKey_ends umgebung incident orgId other variant
  rw [same, ends'] at ends
  have names := List.append_cancel_right ends
  have first : (kanalname channel).toList <:+ start ++ (kanalname channel).toList := List.suffix_append ..
  have second : (kanalname other).toList <:+ start ++ (kanalname channel).toList := names ▸ List.suffix_append ..
  rcases List.suffix_or_suffix_of_suffix first second with left | right
  · exact kanalname_suffix left
  · exact (kanalname_suffix right).symm

section Fold

variable {job : Channel → IncidentAlarmJob}

variable {p : IncidentAlarmJob → Bool}

section

variable (blind : ∀ job id, p { job with id } = p job)
include blind

theorem addJob_eintraege
    {new : IncidentAlarmJob} {db : Db} (free : db.jobs.any (conflicts new) = false) :
    ((addJob new db).jobs.filter p).map eintrag =
      (db.jobs.filter p).map eintrag ++ if p new then [eintrag new] else [] := by
  have grown : (addJob new db).jobs = db.jobs ++ [{ new with id := db.jobs.length + 1 }] := by
    rw [addJob, if_neg (by simp [free])]
  rw [grown, List.filter_append, List.map_append]
  congr 1
  by_cases fits : p new = true
  · rw [List.filter_cons_of_pos (by rw [blind]; exact fits), if_pos fits]
    rfl
  · rw [List.filter_cons_of_neg (by rw [blind]; exact fits), if_neg fits]
    rfl

theorem foldl_addJob_eintraege
    {fits : Bool} (uniform : ∀ channel, p (job channel) = fits) (lanes : List Channel) (db : Db) :
    ∃ taken : List Channel, taken.Sublist lanes ∧
      ((lanes.foldl (fun db channel => addJob (job channel) db) db).jobs.filter p).map eintrag =
        (db.jobs.filter p).map eintrag ++ if fits then taken.map fun channel => eintrag (job channel) else [] := by
  induction lanes generalizing db with
  | nil => exact ⟨[], .slnil, by simp⟩
  | cons channel rest ih =>
    obtain ⟨taken, sub, rows⟩ := ih (addJob (job channel) db)
    by_cases free : db.jobs.any (conflicts (job channel)) = false
    · refine ⟨channel :: taken, sub.cons_cons channel, ?_⟩
      rw [List.foldl_cons, rows, addJob_eintraege blind free, uniform, List.append_assoc]
      cases fits <;> rfl
    · have same : addJob (job channel) db = db := if_pos (by simpa using free)
      rw [same] at rows
      refine ⟨taken, sub.cons channel, ?_⟩
      rw [List.foldl_cons, same]
      exact rows

theorem foldl_addJob_free
    {lanes : List Channel} (nodup : lanes.Nodup) {db : Db}
    (free : ∀ channel ∈ lanes, ∀ row ∈ db.jobs, conflicts (job channel) row = false)
    (apart : ∀ channel other id, channel ≠ other → conflicts (job other) { job channel with id } = false)
    (fits : ∀ channel, p (job channel) = true) :
    ((lanes.foldl (fun db channel => addJob (job channel) db) db).jobs.filter p).map eintrag =
      (db.jobs.filter p).map eintrag ++ lanes.map fun channel => eintrag (job channel) := by
  induction lanes generalizing db with
  | nil => simp
  | cons channel rest ih =>
    obtain ⟨notLater, nodup⟩ := List.nodup_cons.mp nodup
    have none : db.jobs.any (conflicts (job channel)) = false :=
      List.any_eq_false.mpr fun row member => by simp [free channel (List.mem_cons_self ..) row member]
    have later : ∀ other ∈ rest, ∀ row ∈ (addJob (job channel) db).jobs, conflicts (job other) row = false := by
      intro other isLater row member
      rw [addJob, if_neg (by simp [none])] at member
      rcases List.mem_append.mp member with old | new
      · exact free other (List.mem_cons_of_mem _ isLater) row old
      · rw [List.mem_singleton.mp new]
        refine apart channel other _ ?_
        rintro rfl
        exact notLater isLater
    rw [List.foldl_cons, ih nodup later, addJob_eintraege blind none, if_pos (fits channel), List.append_assoc]
    rfl

end

end Fold

end Enqueue

theorem eq_of_prefix {a b rest : List Char} (free : ':' ∉ a) (free' : ':' ∉ b) (pre : a ++ [':'] <+: b ++ ':' :: rest) :
    a = b := by
  induction a generalizing b with
  | nil =>
    cases b with
    | nil => rfl
    | cons c tail =>
      have first := (List.cons_prefix_cons.mp pre).1
      exact absurd (List.mem_cons.mpr (Or.inl first)) free'
  | cons c tail ih =>
    cases b with
    | nil =>
      have first := (List.cons_prefix_cons.mp pre).1
      exact absurd (List.mem_cons.mpr (Or.inl first.symm)) free
    | cons c' tail' =>
      obtain ⟨rfl, later⟩ := List.cons_prefix_cons.mp pre
      rw [ih (fun inside => free (List.mem_cons_of_mem _ inside)) (fun inside => free' (List.mem_cons_of_mem _ inside)) later]

theorem namensraum_free (key : String) : ':' ∉ (namensraum key).toList := by
  intro inside
  rw [namensraum, String.toList_ofList] at inside
  simpa using List.all_eq_true.mp List.all_takeWhile ':' inside

section Enqueue

variable (umgebung : Umgebung)

theorem toList_start (start namespace_ : String) :
    (start ++ namespace_ ++ ":").toList = start.toList ++ (namespace_.toList ++ [':']) := by
  simp [String.toList_append]

theorem toList_joined (start namespace_ rest : String) :
    (start ++ namespace_ ++ ":" ++ rest).toList = start.toList ++ (namespace_.toList ++ ':' :: rest.toList) := by
  simp [String.toList_append]

theorem toList_hashed (start namespace_ rest : String) :
    (start ++ namespace_ ++ ":h" ++ rest).toList = start.toList ++ (namespace_.toList ++ ':' :: 'h' :: rest.toList) := by
  simp [String.toList_append]

theorem nachalarmVariant_starts (namespace_ : String) (codes : List String) :
    ∃ rest, (nachalarmVariant umgebung namespace_ codes).toList =
      "nach:".toList ++ (namespace_.toList ++ ':' :: rest) := by
  unfold nachalarmVariant
  dsimp only
  split
  · exact ⟨_, toList_hashed "nach:" namespace_ _⟩
  · exact ⟨_, toList_joined "nach:" namespace_ _⟩

theorem istNachalarm_nachalarmJob {now : Zeit} {incident : Incident} {orgId orgId' : Option Nat} {key schluessel : String}
    {codes : List String} {source baseUrl pushUrl grund : Option String} {incidentId : Nat} (channel : Channel) :
    istNachalarm (namensraum schluessel) incidentId orgId'
        (nachalarmJob umgebung now incident orgId key codes source baseUrl pushUrl grund channel) =
      decide (incident.id = incidentId ∧ orgId = orgId' ∧ namensraum key = namensraum schluessel) := by
  obtain ⟨rest, variant⟩ := nachalarmVariant_starts umgebung (namensraum key) codes
  have nonempty : nachalarmVariant umgebung (namensraum key) codes ≠ "" := by
    intro empty
    rw [empty] at variant
    cases variant
  have starts : (s!"nach:{namensraum schluessel}:").toList = "nach:".toList ++ ((namensraum schluessel).toList ++ [':']) :=
    toList_start "nach:" (namensraum schluessel)
  have inside : (s!"nach:{namensraum schluessel}:").toList.isPrefixOf
      (nachalarmVariant umgebung (namensraum key) codes).toList = decide (namensraum key = namensraum schluessel) := by
    rw [variant, starts, Bool.eq_iff_iff, List.isPrefixOf_iff_prefix, List.prefix_append_right_inj, decide_eq_true_iff]
    constructor
    · intro pre
      have same := eq_of_prefix (namensraum_free schluessel) (namensraum_free key) pre
      exact (String.toList_inj.mp same).symm
    · intro same
      rw [same]
      exact ⟨rest, by simp⟩
  simp only [istNachalarm, nachalarmJob, newJob, inside]
  by_cases sameIncident : incident.id = incidentId <;> by_cases sameOrg : orgId = orgId' <;>
    simp [sameIncident, sameOrg, nonempty]

theorem conflicts_apart {now : Zeit} {incident : Incident} {orgId : Option Nat} {key : String} {codes : List String}
    {source baseUrl pushUrl grund : Option String} (channel other : Channel) (id : Nat) (different : channel ≠ other) :
    conflicts (nachalarmJob umgebung now incident orgId key codes source baseUrl pushUrl grund other)
      { nachalarmJob umgebung now incident orgId key codes source baseUrl pushUrl grund channel with id } = false := by
  have keys : eventKey umgebung incident orgId other (nachalarmVariant umgebung (namensraum key) codes) ≠
      eventKey umgebung incident orgId channel (nachalarmVariant umgebung (namensraum key) codes) :=
    fun same => different (eventKey_inj umgebung same).symm
  simp [conflicts, nachalarmJob, newJob, different, keys.symm]

def schluesselFrei (world : World) : Action → Bool
  | .nachalarm now incidentId orgId key codes source baseUrl pushUrl grund =>
    (world.db.incident? incidentId).all fun incident =>
      let neue := neueCodes incident.id orgId key codes world.db
      !(world.db.incidents.any fun row => row.id == incident.id && row.primaryOrgId == orgId) || neue == [] ||
        channels.all fun channel => !world.db.jobs.any
          (conflicts (nachalarmJob umgebung now incident orgId key neue source baseUrl pushUrl grund channel))
  | _ => true

end Enqueue

end Einsatzcockpit.Alarm
