import Mathlib.Data.List.Sort
import Einsatzcockpit.Notify.Records
import Einsatzcockpit.Lib.Run
import Mathlib.Data.List.Induction

namespace Einsatzcockpit.Notify

inductive Fehler where
  | fremderTrupp
  | unbekannteArten (arten : List String)
  | dataTooLong (column : String)
  deriving DecidableEq

/-- `get_eskalation_empfaenger_ids` -/
def getEskalationEmpfaengerIds (stamm : Stammdaten) (orgId : Nat) : List Nat × Bool :=
  match stamm.orgSettings.find? fun row => row.orgId == orgId with
  | none => ([], true)
  | some row =>
    let valid := (stamm.users.filter fun user => user.orgId == some orgId && user.active).map (·.id)
    (row.eskalationUserIds.filter (· ∈ valid), row.eskalationSms != some false)

/-- `order_by(User.id)` -/
def sortiert (users : List User) : List User :=
  users.insertionSort (·.id ≤ ·.id)

/-- The last query of `empfaenger_aufloesen`. -/
def aktiveUser (stamm : Stammdaten) (orgId : Nat) (ids : List Nat) : List User :=
  sortiert (stamm.users.filter fun user => decide (user.id ∈ ids) && user.orgId == some orgId && user.active)

def empfaengerAufloesen (stamm : Stammdaten) (incident : Incident) (troop : Breathing.BreathingTroop)
    (gruppe : Gruppe) : List User :=
  match incident.primaryOrgId with
  | none => []
  | some orgId =>
    match gruppe with
    | .ueberwacher => aktiveUser stamm orgId (troop.ueberwacherUserId <|> incident.incidentLeaderUserId).toList
    | .leitung =>
      let ids := (getEskalationEmpfaengerIds stamm orgId).1 ++ incident.incidentLeaderUserId.toList
      if ids = [] then
        sortiert (stamm.users.filter fun user => user.orgId == some orgId && user.active && user.supervisor)
      else aktiveUser stamm orgId ids

def BreathingWarnung.erledigt (now : Zeit) (warnung : BreathingWarnung) : BreathingWarnung :=
  { warnung with erledigtAt := some now }

def BreathingZustellung.unterdrueckt (grund : String) (zeile : BreathingZustellung) : BreathingZustellung :=
  { zeile with status := .suppressed, fehler := some grund, leaseBis := none }

/-- `_schliesse` -/
def schliesse (now : Zeit) (warnungId : Nat) (db : Db) : Db where
  warnungen := Relational.update (·.id == warnungId) (·.erledigt now) db.warnungen
  zustellungen := Relational.update (fun zeile => zeile.warnungId == warnungId && zeile.status == .pending)
    (·.unterdrueckt "erledigt") db.zustellungen

def schliesseAlle (now : Zeit) (warnungen : List BreathingWarnung) (db : Db) : Db :=
  warnungen.foldl (fun db warnung => schliesse now warnung.id db) db

def schliesseWarnungenFuerTrupp (troopId : Nat) (now : Zeit) (db : Db) : Db :=
  schliesseAlle now (db.offene troopId) db

/-- What a recipient of a stage gets on a channel, in the order of the loops. -/
structure Ziel where
  stufe : Stufe
  user : User
  kanal : Kanal

def ziele (stamm : Stammdaten) (incident : Incident) (troop : Breathing.BreathingTroop) (kind : Kind) : List Ziel :=
  (eskalationsplan kind).flatMap fun stufe => (empfaengerAufloesen stamm incident troop stufe.gruppe).flatMap fun user =>
    stufe.kanaele.map fun kanal => ⟨stufe, user, kanal⟩

def Ziel.grund (incident : Incident) (ziel : Ziel) : Option String :=
  match ziel.kanal with
  | .push => none
  | .sms =>
    if incident.isExercise then some "Übung"
    else if ziel.user.phone.all (· = "") then some "keine Telefonnummer"
    else none

def Ziel.zustellung (incident : Incident) (now : Zeit) (grace : Int) (id warnungId : Nat) (ziel : Ziel) :
    BreathingZustellung where
  id := id
  warnungId := warnungId
  stufe := ziel.stufe.stufe
  kanal := ziel.kanal
  userId := some ziel.user.id
  empfaengerLabel := some ziel.user.displayName
  status := if (ziel.grund incident).isSome then .suppressed else .pending
  fehler := ziel.grund incident
  naechsterVersuchAt := some (now + sekunden (ziel.stufe.delay.getD grace))

/-- One round of the innermost loop: a key that is already there, or an SMS where
SMS are off, is passed over. -/
def planeZiel (incident : Incident) (now : Zeit) (grace : Int) (smsAn : Bool) (start warnungId : Nat)
    (geplant : List BreathingZustellung) (ziel : Ziel) : List BreathingZustellung :=
  let zeile := ziel.zustellung incident now grace (start + geplant.length) warnungId
  if geplant.any (·.key == zeile.key) || (ziel.kanal == .sms && !smsAn) then geplant else geplant ++ [zeile]

def plane (stamm : Stammdaten) (incident : Incident) (troop : Breathing.BreathingTroop) (kind : Kind) (now : Zeit)
    (grace : Int) (smsAn : Bool) (start warnungId : Nat) : List BreathingZustellung :=
  (ziele stamm incident troop kind).foldl (planeZiel incident now grace smsAn start warnungId) []

/-- The width of the column `kind`. -/
def kindBreite : Nat := 20

/-- One round of the loop over the new kinds. The database refuses a text that is
longer than its column, and this is no violation of a key; a violation of
`uq_breathing_zustellung_empfaenger` undoes the round alone. -/
def eroeffne (stamm : Stammdaten) (incident : Incident) (troop : Breathing.BreathingTroop) (now : Zeit) (grace : Int)
    (smsAn : Bool) (stand : List BreathingWarnung × Db) (kind : Kind) : Except Fehler (List BreathingWarnung × Db) :=
  let (neue, db) := stand
  if kindBreite < kind.text.length then .error (.dataTooLong "kind")
  else
    let warnung : BreathingWarnung :=
      { id := db.warnungen.length + 1, incidentId := incident.id, troopId := troop.id, zyklusStart := troop.entryAt
        kind := kind, ausgeloestAt := now }
    let zeilen := db.zustellungen ++
      plane stamm incident troop kind now grace smsAn (db.zustellungen.length + 1) warnung.id
    if (zeilen.map BreathingZustellung.key).Nodup then
      .ok (neue ++ [warnung], ⟨db.warnungen ++ [warnung], zeilen⟩)
    else .ok stand

/-- An open warning of another cycle, or of a kind that is not active any more. -/
def veraltet (troop : Breathing.BreathingTroop) (aktiveKinds : List String) (warnung : BreathingWarnung) : Bool :=
  decide (warnung.kind.text ∉ aktiveKinds) || warnung.zyklusStart != troop.entryAt

/-- `sorted(aktive_kinds - vorhanden)` -/
def fehlende (aktiveKinds : List String) (vorhanden : List Kind) : List Kind :=
  (Kind.all.filter fun kind => decide (kind.text ∈ aktiveKinds) && decide (kind ∉ vorhanden)).insertionSort
    (·.text ≤ ·.text)

def graceSeconds (stamm : Stammdaten) (incident : Incident) : Int :=
  let org := incident.primaryOrgId.bind fun orgId => stamm.fireDepts.find? fun row => row.id == orgId
  max 0 ((org.bind (·.escalationGraceMin)).getD 3) * 60

def smsAn (stamm : Stammdaten) (incident : Incident) : Bool :=
  incident.primaryOrgId.any fun orgId => (getEskalationEmpfaengerIds stamm orgId).2

/-- `sync_warnungen`; the set of the active kinds is the list of its elements. -/
def syncWarnungen (stamm : Stammdaten) (incident : Incident) (troop : Breathing.BreathingTroop)
    (aktiveKinds : List String) (now : Zeit) (db : Db) : Except Fehler (List BreathingWarnung × Db) :=
  let unbekannt := aktiveKinds.filter fun text => (Kind.ofText? text).isNone
  if troop.incidentId ≠ incident.id then .error .fremderTrupp
  else if unbekannt ≠ [] then .error (.unbekannteArten (unbekannt.insertionSort (· ≤ ·)))
  else
    let offene := db.offene troop.id
    let vorhanden := (offene.filter fun warnung => !veraltet troop aktiveKinds warnung).map (·.kind)
    (fehlende aktiveKinds vorhanden).foldlM
      (eroeffne stamm incident troop now (graceSeconds stamm incident) (smsAn stamm incident))
      ([], schliesseAlle now (offene.filter (veraltet troop aktiveKinds)) db)

/-- What the scan reads of an incident; `ohneHeartbeat` says that the organisation
requires the app and that no device has a fresh heartbeat. -/
structure Einsatzlage where
  incident : Incident
  troops : List Breathing.BreathingTroop
  asspAktiv : Bool
  ohneHeartbeat : Bool
  enabled : Bool

namespace Einsatzlage

variable (lage : Einsatzlage)

def eingesetzt : List Breathing.BreathingTroop :=
  lage.troops.filter (·.status.inside)

/-- The hints of an incident are anchored at the troop inside with the lowest id. -/
def anker : Option Nat :=
  (lage.eingesetzt.map (·.id)).min?

def incidentHinweise : List Kind :=
  if lage.eingesetzt = [] then []
  else
    (if 3 ≤ lage.eingesetzt.length && !lage.asspAktiv then [.assp] else []) ++
      if (lage.eingesetzt.any fun troop => !troop.isSicherheitstrupp) &&
          !lage.troops.any fun troop => troop.isSicherheitstrupp && troop.status == .bereit then
        [.keinSicherheitstrupp]
      else []

def asuewHeartbeatFehlt : Bool :=
  lage.troops.any (·.status.inside) && lage.ohneHeartbeat

def hinweise : List Kind :=
  lage.incidentHinweise ++ if lage.asuewHeartbeatFehlt then [.keinHeartbeat] else []

end Einsatzlage

/-- The set `aktive` of a troop, by the texts of its kinds. -/
def aktiveKinds (fl : Breathing.Gleitkomma) (lage : Einsatzlage) (now : Zeit) (troop : Breathing.BreathingTroop) :
    List String :=
  ((Breathing.checkTroopWarnings fl troop now).map Kind.ofWarnung ++
    if lage.anker = some troop.id then lage.hinweise else []).map Kind.text

def ruht (troop : Breathing.BreathingTroop) : Bool :=
  !troop.status.inside && troop.notfallAt.isNone && troop.funkVerlorenAt.isNone

/-- The body of the inner loop; `uhr` is what `check_troop_warnings` reads for the troop. -/
def scanTrupp (fl : Breathing.Gleitkomma) (stamm : Stammdaten) (now : Zeit) (uhr : Nat → Zeit) (lage : Einsatzlage)
    (db : Db) (troop : Breathing.BreathingTroop) : Except Fehler Db :=
  if ruht troop then .ok (schliesseWarnungenFuerTrupp troop.id now db)
  else (syncWarnungen stamm lage.incident troop (aktiveKinds fl lage (uhr troop.id) troop) now db).map (·.2)

def scanEinsatz (fl : Breathing.Gleitkomma) (stamm : Stammdaten) (now : Zeit) (uhr : Nat → Zeit) (db : Db)
    (lage : Einsatzlage) : Except Fehler Db :=
  if lage.incident.active && lage.enabled then lage.troops.foldlM (scanTrupp fl stamm now uhr lage) db else .ok db

/-- `_collect_new_breathing_warnings` -/
def collectNewBreathingWarnings (fl : Breathing.Gleitkomma) (stamm : Stammdaten) (now : Zeit) (uhr : Nat → Zeit)
    (lagen : List Einsatzlage) (db : Db) : Except Fehler Db :=
  lagen.foldlM (scanEinsatz fl stamm now uhr) db

inductive Action where
  | sync (stamm : Stammdaten) (incident : Incident) (troop : Breathing.BreathingTroop) (aktiveKinds : List String)
      (now : Zeit)
  | schliesse (troopId : Nat) (now : Zeit)
  | collect (fl : Breathing.Gleitkomma) (stamm : Stammdaten) (now : Zeit) (uhr : Nat → Zeit) (lagen : List Einsatzlage)

def step (db : Db) : Action → Db
  | .sync stamm incident troop aktiveKinds now =>
    match syncWarnungen stamm incident troop aktiveKinds now db with
    | .ok (_, db') => db'
    | .error _ => db
  | .schliesse troopId now => schliesseWarnungenFuerTrupp troopId now db
  | .collect fl stamm now uhr lagen =>
    match collectNewBreathingWarnings fl stamm now uhr lagen db with
    | .ok db' => db'
    | .error _ => db

abbrev run : Db → List Action → Db := Transition.run step

end Einsatzcockpit.Notify

namespace Einsatzcockpit.Notify

/-- The deliveries planned for one warning: numbered on from `start`, no two for
one stage, channel and user. -/
structure Geplant (start warnungId : Nat) (zeilen : List BreathingZustellung) : Prop where
  ids : zeilen.map BreathingZustellung.id = List.range' start zeilen.length
  keys : (zeilen.map BreathingZustellung.key).Nodup
  warnung : ∀ zeile ∈ zeilen, zeile.warnungId = warnungId

variable {incident : Incident} {now : Zeit} {grace : Int} {sms : Bool} {start warnungId : Nat}

theorem Geplant.nil : Geplant start warnungId [] :=
  ⟨rfl, List.nodup_nil, fun _ none => absurd none List.not_mem_nil⟩

theorem Geplant.planeZiel {zeilen : List BreathingZustellung} (geplant : Geplant start warnungId zeilen) (ziel : Ziel) :
    Geplant start warnungId (planeZiel incident now grace sms start warnungId zeilen ziel) := by
  simp only [Notify.planeZiel]
  split
  · exact geplant
  · next neu =>
    simp only [Bool.or_eq_true, not_or, Bool.not_eq_true, List.any_eq_false] at neu
    refine ⟨?_, ?_, ?_⟩
    · rw [List.map_append, List.map_singleton, geplant.ids, List.length_append, List.length_singleton,
        List.range'_concat, Nat.one_mul]
      rfl
    · rw [List.map_append, List.map_singleton]
      refine List.nodup_append.mpr ⟨geplant.keys, List.nodup_singleton _, ?_⟩
      intro key old key' new same
      obtain ⟨zeile, member, rfl⟩ := List.mem_map.mp old
      rw [List.mem_singleton.mp new] at same
      exact beq_eq_false_iff_ne.mp (neu.1 zeile member) same
    · intro zeile member
      rcases List.mem_append.mp member with old | new
      · exact geplant.warnung zeile old
      · rw [List.mem_singleton.mp new]
        rfl

theorem plane_geplant (stamm : Stammdaten) (troop : Breathing.BreathingTroop) (kind : Kind) :
    Geplant start warnungId (plane stamm incident troop kind now grace sms start warnungId) := by
  unfold plane
  induction ziele stamm incident troop kind using List.reverseRecOn with
  | nil => exact .nil
  | append_singleton earlier ziel ih =>
    rw [List.foldl_append]
    exact ih.planeZiel ziel

end Einsatzcockpit.Notify
