import Einsatzcockpit.Lib.Run
import Einsatzcockpit.Lis.Matching

/-! Linking operations with incidents over the polls, `lis_sync.py`. -/

namespace Einsatzcockpit.Lis

open Relational Transition

/-- What `_parse_operation` reads from an operation, as far as the linking needs
it. -/
structure Operation where
  lisOperationId : Option String
  lisOperationNumber : Option String := none
  reportText : Option String := none
  street : Option String := none
  houseNo : Option String := none
  city : Option String := none
  alarmTypeCode : String := "T1"
  startedAt : Option Zeit := none
  isClosed : Bool := false
  deriving DecidableEq

/-- An operation as a poll delivers it: when it is processed, and whether its
transaction comes through. -/
structure Eintrag where
  op : Operation
  now : Zeit := 0
  gelingt : Bool := true

structure Welt where
  einsaetze : Keyed Incident.id

section Vorgaenge

/-- `_reopen_if_auto_closed` -/
def reopenIfAutoClosed (op : Operation) (candidate : Incident) : Incident :=
  if candidate.status = .closed ∧ candidate.closedViaLisAuto = true ∧ candidate.lisAutoCloseLocked = false ∧
      op.isClosed = false then
    { candidate with status := .active, closedViaLisAuto := false, lisAutoCloseLocked := true }
  else candidate

/-- `close_incident(…, auto_closed_by_lis=True)` -/
def closeIncident (incident : Incident) : Incident := { incident with status := .closed, closedViaLisAuto := true }

def verknuepft (op : Operation) (incident : Incident) : Incident :=
  { incident with lisOperationId := op.lisOperationId, lisOperationNumber := op.lisOperationNumber }

/-- The incident of `create_incident`; an alarm type that the organisation does
not know is `"T1"`. -/
def createIncident (umgebung : Umgebung) (now : Zeit) (op : Operation) (id : Nat) : Incident :=
  { id
    alarmTypeCode := if umgebung.bekannt op.alarmTypeCode then op.alarmTypeCode else "T1"
    startedAt := some (op.startedAt.getD now)
    addressStreet := op.street
    addressNo := op.houseNo
    addressCity := op.city
    reportText := op.reportText
    lisOperationId := op.lisOperationId
    lisOperationNumber := op.lisOperationNumber }

theorem closeIncident_id (incident : Incident) : (closeIncident incident).id = incident.id := rfl

theorem createIncident_id (umgebung : Umgebung) (now : Zeit) (op : Operation) (id : Nat) :
    (createIncident umgebung now op id).id = id := rfl

theorem reopenIfAutoClosed_id (op : Operation) (candidate : Incident) :
    (reopenIfAutoClosed op candidate).id = candidate.id := by
  unfold reopenIfAutoClosed
  split <;> rfl

theorem reopenIfAutoClosed_link (op : Operation) (candidate : Incident) :
    (reopenIfAutoClosed op candidate).lisOperationId = candidate.lisOperationId ∧
      (reopenIfAutoClosed op candidate).lisOperationNumber = candidate.lisOperationNumber := by
  unfold reopenIfAutoClosed
  split <;> exact ⟨rfl, rfl⟩

end Vorgaenge

section Poll

variable (umgebung : Umgebung)

def Operation.suche (op : Operation) : Suche :=
  { alarmTypeCode := op.alarmTypeCode
    street := op.street
    city := op.city
    houseNo := op.houseNo
    startedAt := op.startedAt
    reportText := op.reportText
    lisOperationNumber := op.lisOperationNumber }

/-- `_find_by_lis_operation_id` -/
def findByLisOperationId (welt : Welt) (op : Operation) : Option Incident :=
  (orNone op.lisOperationId).bind fun id => welt.einsaetze.rows.find? (·.lisOperationId == some id)

/-- The number of another incident, which the unique key of the numbers
refuses. -/
def nummerVergeben (welt : Welt) (id : Nat) (number : Option String) : Prop :=
  number ≠ none ∧ ∃ other ∈ welt.einsaetze.rows, other.id ≠ id ∧ other.lisOperationNumber = number

instance (welt : Welt) (id : Nat) (number : Option String) : Decidable (nummerVergeben welt id number) := by
  unfold nummerVergeben
  infer_instance

/-- `_get_or_link_incident`: the incident, and whether it has been created;
`none` where the database refuses it. -/
def getOrLinkIncident (now : Zeit) (welt : Welt) (op : Operation) : Option (Welt × Nat × Bool) :=
  match findByLisOperationId welt op with
  | some existing =>
    some ({ einsaetze := welt.einsaetze.modify existing.id (reopenIfAutoClosed op) (reopenIfAutoClosed_id op) }, existing.id, false)
  | none =>
    match findMatchingIncident umgebung.lower op.suche welt.einsaetze.rows with
    | some found =>
      if nummerVergeben welt found.id op.lisOperationNumber then none
      else
        let link := fun incident => reopenIfAutoClosed op (verknuepft op incident)
        some ({ einsaetze := welt.einsaetze.modify found.id link fun incident => reopenIfAutoClosed_id op (verknuepft op incident) },
          found.id, false)
    | none =>
      if nummerVergeben welt (welt.einsaetze.last + 1) op.lisOperationNumber then none
      else some ({ einsaetze := welt.einsaetze.insert (createIncident umgebung now op) (createIncident_id umgebung now op) },
        welt.einsaetze.last + 1, true)

/-- `sync_operation`, with the incident the operation is linked to. -/
def syncOperation (welt : Welt) (eintrag : Eintrag) : Welt × Option Nat :=
  if orNone eintrag.op.lisOperationId = none ∨ eintrag.gelingt = false then (welt, none)
  else
    match getOrLinkIncident umgebung eintrag.now welt eintrag.op with
    | none => (welt, none)
    | some (neu, id, created) =>
      if created = true ∧ eintrag.op.isClosed = true then
        ({ einsaetze := neu.einsaetze.modify id closeIncident closeIncident_id }, some id)
      else (neu, some id)

def syncOperations : Welt → List Eintrag → Welt × List (Operation × Nat)
  | welt, [] => (welt, [])
  | welt, eintrag :: rest =>
    let (neu, id) := syncOperation umgebung welt eintrag
    let (ende, links) := syncOperations neu rest
    (ende, id.toList.map (eintrag.op, ·) ++ links)

/-- The operations of `ActiveParticipation`, and of the backfill where one is
due. -/
structure Poll where
  operations : List Eintrag
  backfill : List Eintrag := []

def Poll.aktive (poll : Poll) : List Operation :=
  (poll.operations.map (·.op)).filter fun op => orNone op.lisOperationId ≠ none ∧ op.isClosed = false

/-- `_close_incidents_missing_from_lis`, one incident. -/
def closeIfMissing (activeOperationIds : List (Option String)) (incident : Incident) : Incident :=
  if incident.status = .active ∧ incident.lisOperationId ≠ none ∧ incident.lisOperationId ∉ activeOperationIds ∧
      incident.lisAutoCloseLocked = false then
    closeIncident incident
  else incident

theorem closeIfMissing_link (activeOperationIds : List (Option String)) (incident : Incident) :
    (closeIfMissing activeOperationIds incident).id = incident.id ∧
      (closeIfMissing activeOperationIds incident).lisOperationId = incident.lisOperationId ∧
      (closeIfMissing activeOperationIds incident).lisOperationNumber = incident.lisOperationNumber := by
  unfold closeIfMissing
  split <;> exact ⟨rfl, rfl, rfl⟩

/-- `_close_incidents_missing_from_lis` -/
def closeIncidentsMissingFromLis (welt : Welt) (aktive : List Operation) : Welt :=
  { einsaetze := welt.einsaetze.map (closeIfMissing (aktive.map (·.lisOperationId))) fun incident =>
      (closeIfMissing_link _ incident).1 }

/-- `_sync_organization_with_client`, with the links that are made. -/
def syncOrganization (welt : Welt) (poll : Poll) : Welt × List (Operation × Nat) :=
  let (verarbeitet, links) := syncOperations umgebung welt poll.operations
  let geschlossen := closeIncidentsMissingFromLis verarbeitet poll.aktive
  let (ende, spaetere) := syncOperations umgebung geschlossen poll.backfill
  (ende, links ++ spaetere)

/-- Polls, and what other writers do between them: they leave the operation's id
alone. -/
inductive Aktion where
  | poll (poll : Poll)
  | anlegen (neu : Incident)
  | aendern (id : Nat) (neu : Incident → Incident)
  | loeschen (id : Nat)

def fremdGeaendert (neu : Incident → Incident) (incident : Incident) : Incident :=
  { neu incident with id := incident.id, lisOperationId := incident.lisOperationId }

theorem fremdGeaendert_id (neu : Incident → Incident) (incident : Incident) :
    (fremdGeaendert neu incident).id = incident.id := rfl

def step (welt : Welt) : Aktion → Welt
  | .poll poll => (syncOrganization umgebung welt poll).1
  | .anlegen neu =>
    if nummerVergeben welt (welt.einsaetze.last + 1) neu.lisOperationNumber then welt
    else { einsaetze := welt.einsaetze.insert (fun id => { neu with id, lisOperationId := none }) fun _ => rfl }
  | .aendern id neu =>
    match welt.einsaetze.get? id with
    | some incident =>
      if nummerVergeben welt id (neu incident).lisOperationNumber then welt
      else { einsaetze := welt.einsaetze.modify id (fremdGeaendert neu) (fremdGeaendert_id neu) }
    | none => welt
  | .loeschen id => { einsaetze := welt.einsaetze.delete id }

end Poll

end Einsatzcockpit.Lis
