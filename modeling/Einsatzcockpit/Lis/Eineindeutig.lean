import Einsatzcockpit.Lis.Verknuepfung

namespace Einsatzcockpit.Lis

open Relational Transition

def Operation.Gleich (a b : Operation) : Prop :=
  a.lisOperationId = b.lisOperationId ∨ orNone a.lisOperationNumber ≠ none ∧ a.lisOperationNumber = b.lisOperationNumber

def Incident.Verknuepft (incident : Incident) (op : Operation) : Prop :=
  incident.lisOperationId = op.lisOperationId ∨
    orNone op.lisOperationNumber ≠ none ∧ incident.lisOperationNumber = op.lisOperationNumber

instance (a b : Operation) : Decidable (a.Gleich b) := by
  unfold Operation.Gleich
  infer_instance

instance (incident : Incident) (op : Operation) : Decidable (incident.Verknuepft op) := by
  unfold Incident.Verknuepft
  infer_instance

def Welt.Eindeutig (welt : Welt) : Prop :=
  ∀ a ∈ welt.einsaetze.rows, ∀ b ∈ welt.einsaetze.rows, a.lisOperationId ≠ none → a.lisOperationId = b.lisOperationId →
    a.id = b.id

instance (welt : Welt) : Decidable welt.Eindeutig := by
  unfold Welt.Eindeutig
  infer_instance

section Bedingung

variable (umgebung : Umgebung)

def finde (welt : Welt) (op : Operation) : Option Incident :=
  (findByLisOperationId welt op).or (findMatchingIncident umgebung.lower op.suche welt.einsaetze.rows)

/-- The incident that is found is linked to no other operation that is active. -/
def OperationPasst (aktive : List Operation) (welt : Welt) (eintrag : Eintrag) : Prop :=
  eintrag.gelingt = true →
    ∀ incident ∈ finde umgebung welt eintrag.op, ∀ o ∈ aktive, incident.Verknuepft o → o.Gleich eintrag.op

instance (aktive : List Operation) (welt : Welt) (eintrag : Eintrag) :
    Decidable (OperationPasst umgebung aktive welt eintrag) := by
  unfold OperationPasst
  infer_instance

/-- The operations of a poll and of its backfill are found where they belong. -/
def PollPasst (welt : Welt) (poll : Poll) : Prop :=
  let schritt := fun welt eintrag => (syncOperation umgebung welt eintrag).1
  Meets schritt (OperationPasst umgebung poll.aktive) welt poll.operations ∧
    Meets schritt (OperationPasst umgebung poll.aktive)
      (closeIncidentsMissingFromLis (run schritt welt poll.operations) poll.aktive) poll.backfill

instance (welt : Welt) (poll : Poll) : Decidable (PollPasst umgebung welt poll) := by
  unfold PollPasst
  infer_instance

def Zulaessig (welt : Welt) : Aktion → Prop
  | .poll poll => PollPasst umgebung welt poll
  | _ => True

instance (welt : Welt) (aktion : Aktion) : Decidable (Zulaessig umgebung welt aktion) := by
  unfold Zulaessig
  split <;> infer_instance

end Bedingung

section Schritt

variable {umgebung : Umgebung} {welt : Welt} {op : Operation} {eintrag : Eintrag}

variable {incident : Incident}

theorem findByLisOperationId_some (found : findByLisOperationId welt op = some incident) :
    incident ∈ welt.einsaetze.rows ∧ incident.lisOperationId = op.lisOperationId := by
  obtain ⟨id, isId, first⟩ := Option.bind_eq_some_iff.mp found
  obtain ⟨given, -⟩ := Option.filter_eq_some_iff.mp isId
  refine ⟨List.mem_of_find?_eq_some first, ?_⟩
  have same := List.find?_some first
  rw [given]
  exact beq_iff_eq.mp same

theorem findByLisOperationId_none (missing : findByLisOperationId welt op = none) (given : orNone op.lisOperationId ≠ none) :
    ∀ incident ∈ welt.einsaetze.rows, incident.lisOperationId ≠ op.lisOperationId := by
  obtain ⟨id, isId⟩ := Option.ne_none_iff_exists'.mp given
  obtain ⟨isOp, -⟩ := Option.filter_eq_some_iff.mp isId
  intro incident member same
  have none' : welt.einsaetze.rows.find? (·.lisOperationId == some id) = none := by
    rw [findByLisOperationId, isId] at missing
    exact missing
  exact List.find?_eq_none.mp none' incident member (beq_iff_eq.mpr (same.trans isOp))

theorem findMatchingIncident_mem {lower : String → String} {suche : Suche} {einsaetze : List Incident}
    (found : findMatchingIncident lower suche einsaetze = some incident) : incident ∈ einsaetze := by
  unfold findMatchingIncident at found
  simp only [Option.or_eq_some_iff] at found
  rcases found with byId | ⟨-, byNumber | ⟨-, address | ⟨-, text⟩⟩⟩
  · obtain ⟨id, -, first⟩ := Option.bind_eq_some_iff.mp byId
    exact List.mem_of_find?_eq_some first
  · obtain ⟨number, -, first⟩ := Option.bind_eq_some_iff.mp byNumber
    exact List.mem_of_find?_eq_some first
  · exact List.mem_of_mem_filter (List.mem_of_find?_eq_some address)
  · exact List.mem_of_mem_filter (List.mem_of_find?_eq_some text)

/-- What is written for an operation: one row, that of the incident that has been
found, or a new one. -/
structure Geschrieben (umgebung : Umgebung) (op : Operation) (welt neu : Welt) (id : Nat) (row : Incident) : Prop where
  rows : ∀ other, neu.einsaetze.get? other = if other = id then some row else welt.einsaetze.get? other
  gegeben : orNone op.lisOperationId ≠ none
  link : (∃ alt, welt.einsaetze.get? id = some alt ∧ alt.lisOperationId = op.lisOperationId ∧
      row.lisOperationId = alt.lisOperationId ∧ row.lisOperationNumber = alt.lisOperationNumber) ∨
    (findByLisOperationId welt op = none ∧ row.lisOperationId = op.lisOperationId ∧
      row.lisOperationNumber = op.lisOperationNumber)
  gefunden : ∀ alt, welt.einsaetze.get? id = some alt → finde umgebung welt op = some alt

theorem get?_modify_found {f : Incident → Incident} (keeps : ∀ row, (f row).id = row.id)
    (member : incident ∈ welt.einsaetze.rows) (other : Nat) :
    (welt.einsaetze.modify incident.id f keeps).get? other =
      if other = incident.id then some (f incident) else welt.einsaetze.get? other := by
  rw [Keyed.get?_modify]
  split
  · next same => rw [same, Keyed.get?_of_mem member, Option.map_some]
  · rfl

theorem get?_last : welt.einsaetze.get? (welt.einsaetze.last + 1) = none := by
  refine Option.eq_none_iff_forall_ne_some.mpr fun alt isAlt => ?_
  have bound := welt.einsaetze.fresh alt (Keyed.mem_of_get? isAlt)
  rw [Keyed.key_of_get? isAlt] at bound
  omega

theorem getOrLinkIncident_cases (now : Zeit) (gegeben : orNone op.lisOperationId ≠ none) :
    getOrLinkIncident umgebung now welt op = none ∨
      ∃ neu id created row, getOrLinkIncident umgebung now welt op = some (neu, id, created) ∧
        Geschrieben umgebung op welt neu id row ∧ (created = true → welt.einsaetze.get? id = none) := by
  unfold getOrLinkIncident
  cases byId : findByLisOperationId welt op with
  | some existing =>
    obtain ⟨member, same⟩ := findByLisOperationId_some byId
    have stored := Keyed.get?_of_mem member
    obtain ⟨sameId, sameNumber⟩ := reopenIfAutoClosed_link op existing
    refine Or.inr ⟨_, _, _, reopenIfAutoClosed op existing, rfl,
      ⟨fun other => get?_modify_found (reopenIfAutoClosed_id op) member other, gegeben,
        Or.inl ⟨existing, stored, same, sameId, sameNumber⟩, fun alt isAlt => ?_⟩, fun created => by cases created⟩
    rw [stored] at isAlt
    rw [finde, byId, Option.some_or, isAlt]
  | none =>
    dsimp only
    cases matched : findMatchingIncident umgebung.lower op.suche welt.einsaetze.rows with
    | some found =>
      dsimp only
      by_cases vergeben : nummerVergeben welt found.id op.lisOperationNumber
      · exact Or.inl (if_pos vergeben)
      rw [if_neg vergeben]
      have member := findMatchingIncident_mem matched
      have stored := Keyed.get?_of_mem member
      obtain ⟨newId, newNumber⟩ := reopenIfAutoClosed_link op (verknuepft op found)
      have keeps : ∀ incident, (reopenIfAutoClosed op (verknuepft op incident)).id = incident.id :=
        fun incident => reopenIfAutoClosed_id op (verknuepft op incident)
      refine Or.inr ⟨_, _, _, reopenIfAutoClosed op (verknuepft op found), rfl, ⟨fun other => get?_modify_found keeps member other,
        gegeben, Or.inr ⟨byId, newId, newNumber⟩, fun alt isAlt => ?_⟩, fun created => by cases created⟩
      rw [stored] at isAlt
      rw [finde, byId, Option.none_or, matched, isAlt]
    | none =>
      dsimp only
      by_cases vergeben : nummerVergeben welt (welt.einsaetze.last + 1) op.lisOperationNumber
      · exact Or.inl (if_pos vergeben)
      rw [if_neg vergeben]
      refine Or.inr ⟨_, _, _, createIncident umgebung now op (welt.einsaetze.last + 1), rfl, ⟨fun other => ?_, gegeben,
        Or.inr ⟨byId, rfl, rfl⟩, fun alt isAlt => ?_⟩, fun _ => get?_last⟩
      · rw [Keyed.get?_insert]
        split
        · next isNew => rw [isNew]
        · rfl
      · rw [get?_last] at isAlt
        cases isAlt

theorem syncOperation_cases (umgebung : Umgebung) (welt : Welt) (eintrag : Eintrag) :
    syncOperation umgebung welt eintrag = (welt, none) ∨
      eintrag.gelingt = true ∧ ∃ neu id row, syncOperation umgebung welt eintrag = (neu, some id) ∧
        Geschrieben umgebung eintrag.op welt neu id row := by
  unfold syncOperation
  split
  · exact Or.inl rfl
  next verarbeitet =>
  obtain ⟨gegeben, misslungen⟩ := not_or.mp verarbeitet
  have gelingt : eintrag.gelingt = true := Bool.eq_true_of_not_eq_false misslungen
  rcases getOrLinkIncident_cases eintrag.now gegeben with abgelehnt | ⟨neu, id, created, row, linked, geschrieben, neuAngelegt⟩
  · rw [abgelehnt]
    exact Or.inl rfl
  rw [linked]
  dsimp only
  split
  · next beendet =>
    have missing := neuAngelegt beendet.1
    refine Or.inr ⟨gelingt, _, id, closeIncident row, rfl, ⟨fun other => ?_, gegeben, ?_, geschrieben.gefunden⟩⟩
    · rw [Keyed.get?_modify, geschrieben.rows]
      split
      · rfl
      · rfl
    · rcases geschrieben.link with ⟨alt, isAlt, -⟩ | link
      · rw [missing] at isAlt
        cases isAlt
      · exact Or.inr link
  · exact Or.inr ⟨gelingt, neu, id, row, rfl, geschrieben⟩

end Schritt

section Verknuepfungen

variable {umgebung : Umgebung} {aktive : List Operation}

theorem Operation.Gleich.symm {a b : Operation} (gleich : a.Gleich b) : b.Gleich a := by
  rcases gleich with id | ⟨nonempty, number⟩
  · exact Or.inl id.symm
  · exact Or.inr ⟨number ▸ nonempty, number.symm⟩

variable {op o : Operation} {id : Nat}

theorem Incident.Verknuepft.of_link {a b : Incident} (h : a.Verknuepft op)
    (id : b.lisOperationId = a.lisOperationId) (number : b.lisOperationNumber = a.lisOperationNumber) : b.Verknuepft op := by
  unfold Incident.Verknuepft at h ⊢
  rw [id, number]
  exact h

theorem verknuepft_of_gleich {incident : Incident} (gleich : o.Gleich op)
    (id : incident.lisOperationId = op.lisOperationId) (number : incident.lisOperationNumber = op.lisOperationNumber) :
    incident.Verknuepft o := by
  rcases gleich with same | ⟨nonempty, same⟩
  · exact Or.inl (id.trans same.symm)
  · exact Or.inr ⟨nonempty, number.trans same.symm⟩

def BleibtVerknuepft (welt neu : Welt) (o : Operation) : Prop :=
  ∀ id incident, welt.einsaetze.get? id = some incident → incident.Verknuepft o →
    ∃ incident', neu.einsaetze.get? id = some incident' ∧ incident'.Verknuepft o

theorem BleibtVerknuepft.refl (welt : Welt) (o : Operation) : BleibtVerknuepft welt welt o :=
  fun _ incident found linked => ⟨incident, found, linked⟩

theorem BleibtVerknuepft.trans {welt mitte neu : Welt} (first : BleibtVerknuepft welt mitte o)
    (second : BleibtVerknuepft mitte neu o) : BleibtVerknuepft welt neu o := by
  intro id incident found linked
  obtain ⟨between, isBetween, still⟩ := first id incident found linked
  exact second id between isBetween still

variable {welt : Welt} {eintrag : Eintrag}

theorem Geschrieben.verknuepft {neu : Welt} {row : Incident}
    (h : Geschrieben umgebung op welt neu id row) : row.Verknuepft op := by
  rcases h.link with ⟨alt, -, same, kept, -⟩ | ⟨-, same, -⟩
  · exact Or.inl (kept.trans same)
  · exact Or.inl same

section

variable (passt : OperationPasst umgebung aktive welt eintrag) (aktiv : o ∈ aktive)
include passt aktiv

theorem syncOperation_bleibt :
    BleibtVerknuepft welt (syncOperation umgebung welt eintrag).1 o := by
  rcases syncOperation_cases umgebung welt eintrag with nichts | ⟨gelingt, neu, id, row, ergebnis, geschrieben⟩
  · rw [nichts]
    exact .refl welt o
  rw [ergebnis]
  intro other incident found linked
  have read := geschrieben.rows other
  split at read
  · next same =>
    subst same
    refine ⟨row, read, ?_⟩
    rcases geschrieben.link with ⟨alt, isAlt, -, keptId, keptNumber⟩ | ⟨-, newId, newNumber⟩
    · rw [found] at isAlt
      cases isAlt
      exact linked.of_link keptId keptNumber
    · have gleich : o.Gleich eintrag.op :=
        passt gelingt incident (geschrieben.gefunden incident found) o aktiv linked
      exact verknuepft_of_gleich gleich newId newNumber
  · exact ⟨incident, read.trans found, linked⟩

theorem syncOperation_gleich {incident : Incident} (found : welt.einsaetze.get? id = some incident) (linked : incident.Verknuepft o)
    (ergebnis : (syncOperation umgebung welt eintrag).2 = some id) : o.Gleich eintrag.op := by
  rcases syncOperation_cases umgebung welt eintrag with nichts | ⟨gelingt, neu, id', row, written, geschrieben⟩
  · rw [nichts] at ergebnis
    cases ergebnis
  rw [written] at ergebnis
  cases ergebnis
  exact passt gelingt incident (geschrieben.gefunden incident found) o aktiv linked

end

theorem syncOperation_verknuepft (ergebnis : (syncOperation umgebung welt eintrag).2 = some id) :
    ∃ row, (syncOperation umgebung welt eintrag).1.einsaetze.get? id = some row ∧ row.Verknuepft eintrag.op := by
  rcases syncOperation_cases umgebung welt eintrag with nichts | ⟨-, neu, id', row, written, geschrieben⟩
  · rw [nichts] at ergebnis
    cases ergebnis
  rw [written] at ergebnis
  cases ergebnis
  refine ⟨row, ?_, geschrieben.verknuepft⟩
  rw [written, geschrieben.rows, if_pos rfl]

theorem closeIncidentsMissingFromLis_bleibt (welt : Welt) (o : Operation) :
    BleibtVerknuepft welt (closeIncidentsMissingFromLis welt aktive) o := by
  intro id incident found linked
  obtain ⟨-, sameId, sameNumber⟩ := closeIfMissing_link (aktive.map (·.lisOperationId)) incident
  refine ⟨closeIfMissing (aktive.map (·.lisOperationId)) incident, ?_, linked.of_link sameId sameNumber⟩
  rw [closeIncidentsMissingFromLis, Keyed.get?_map, found, Option.map_some]

end Verknuepfungen

section Operationen

variable {umgebung : Umgebung} {aktive : List Operation} {eintraege : List Eintrag} {welt : Welt}

abbrev nachOperationen (umgebung : Umgebung) (welt : Welt) (eintraege : List Eintrag) : Welt :=
  run (fun welt eintrag => (syncOperation umgebung welt eintrag).1) welt eintraege

theorem syncOperations_fst (umgebung : Umgebung) (welt : Welt) (eintraege : List Eintrag) :
    (syncOperations umgebung welt eintraege).1 = nachOperationen umgebung welt eintraege := by
  induction eintraege generalizing welt with
  | nil => rfl
  | cons eintrag rest ih => exact ih _

variable {op : Operation} {id : Nat}

theorem mem_syncOperations_cons {eintrag : Eintrag}
    (member : (op, id) ∈ (syncOperations umgebung welt (eintrag :: eintraege)).2) :
    op = eintrag.op ∧ (syncOperation umgebung welt eintrag).2 = some id ∨
      (op, id) ∈ (syncOperations umgebung (syncOperation umgebung welt eintrag).1 eintraege).2 := by
  rcases List.mem_append.mp member with first | later
  · obtain ⟨id', isId, same⟩ := List.mem_map.mp first
    cases same
    exact Or.inl ⟨rfl, Option.mem_toList.mp isId⟩
  · exact Or.inr later

abbrev OperationenPassen (umgebung : Umgebung) (aktive : List Operation) (welt : Welt) (eintraege : List Eintrag) : Prop :=
  Meets (fun welt eintrag => (syncOperation umgebung welt eintrag).1) (OperationPasst umgebung aktive) welt eintraege

section

variable (passen : OperationenPassen umgebung aktive welt eintraege)
include passen

theorem syncOperations_bleibt {o : Operation} (aktiv : o ∈ aktive) :
    BleibtVerknuepft welt (nachOperationen umgebung welt eintraege) o := by
  induction eintraege generalizing welt with
  | nil => exact .refl welt o
  | cons eintrag rest ih => exact (syncOperation_bleibt passen.1 aktiv).trans (ih passen.2)

theorem syncOperations_gleich {o : Operation} (aktiv : o ∈ aktive) {incident : Incident} (found : welt.einsaetze.get? id = some incident) (linked : incident.Verknuepft o) (member : (op, id) ∈ (syncOperations umgebung welt eintraege).2) : o.Gleich op := by
  induction eintraege generalizing welt incident with
  | nil => cases member
  | cons eintrag rest ih =>
    rcases mem_syncOperations_cons member with ⟨rfl, ergebnis⟩ | later
    · exact syncOperation_gleich passen.1 aktiv found linked ergebnis
    · obtain ⟨incident', found', still⟩ := syncOperation_bleibt passen.1 aktiv id incident found linked
      exact ih passen.2 found' still later

theorem syncOperations_verknuepft (aktiv : op ∈ aktive) (member : (op, id) ∈ (syncOperations umgebung welt eintraege).2) :
    ∃ incident, (nachOperationen umgebung welt eintraege).einsaetze.get? id = some incident ∧ incident.Verknuepft op := by
  induction eintraege generalizing welt with
  | nil => cases member
  | cons eintrag rest ih =>
    rcases mem_syncOperations_cons member with ⟨rfl, ergebnis⟩ | later
    · obtain ⟨row, stored, linked⟩ := syncOperation_verknuepft ergebnis
      exact syncOperations_bleibt passen.2 aktiv id row stored linked
    · exact ih passen.2 later

theorem syncOperations_getrennt {a b : Operation} (isA : a ∈ aktive)
    (isB : b ∈ aktive) (linkA : (a, id) ∈ (syncOperations umgebung welt eintraege).2)
    (linkB : (b, id) ∈ (syncOperations umgebung welt eintraege).2) : a.Gleich b := by
  induction eintraege generalizing welt with
  | nil => cases linkA
  | cons eintrag rest ih =>
    have first : ∀ op ∈ aktive, op = eintrag.op → (syncOperation umgebung welt eintrag).2 = some id → ∀ later,
        (later, id) ∈ (syncOperations umgebung (syncOperation umgebung welt eintrag).1 rest).2 → op.Gleich later := by
      rintro op aktiv rfl ergebnis later isLater
      obtain ⟨row, stored, linked⟩ := syncOperation_verknuepft ergebnis
      exact syncOperations_gleich passen.2 aktiv stored linked isLater
    rcases mem_syncOperations_cons linkA with ⟨sameA, ergebnisA⟩ | laterA
    · rcases mem_syncOperations_cons linkB with ⟨sameB, -⟩ | laterB
      · exact Or.inl (congrArg (·.lisOperationId) (sameA.trans sameB.symm))
      · exact first a isA sameA ergebnisA b laterB
    · rcases mem_syncOperations_cons linkB with ⟨sameB, ergebnisB⟩ | laterB
      · exact (first b isB sameB ergebnisB a laterA).symm
      · exact ih passen.2 laterA laterB

end

end Operationen

section Polls

variable {umgebung : Umgebung} {welt : Welt} {poll : Poll}

theorem syncOrganization_fst (umgebung : Umgebung) (welt : Welt) (poll : Poll) :
    (syncOrganization umgebung welt poll).1 =
      nachOperationen umgebung (closeIncidentsMissingFromLis (nachOperationen umgebung welt poll.operations) poll.aktive)
        poll.backfill := by
  unfold syncOrganization
  dsimp only
  rw [syncOperations_fst, syncOperations_fst]

theorem syncOrganization_bleibt (passt : PollPasst umgebung welt poll) {o : Operation} (aktiv : o ∈ poll.aktive) :
    BleibtVerknuepft welt (syncOrganization umgebung welt poll).1 o := by
  rw [syncOrganization_fst]
  exact ((syncOperations_bleibt passt.1 aktiv).trans (closeIncidentsMissingFromLis_bleibt _ o)).trans
    (syncOperations_bleibt passt.2 aktiv)

theorem syncOrganization_getrennt (passt : PollPasst umgebung welt poll) {a b : Operation} (isA : a ∈ poll.aktive)
    (isB : b ∈ poll.aktive) {id : Nat} (linkA : (a, id) ∈ (syncOrganization umgebung welt poll).2)
    (linkB : (b, id) ∈ (syncOrganization umgebung welt poll).2) : a.Gleich b := by
  obtain ⟨vorne, hinten⟩ := passt
  have later : ∀ op ∈ poll.aktive, ∀ other, (op, id) ∈ (syncOperations umgebung welt poll.operations).2 →
      (other, id) ∈ (syncOperations umgebung
        (closeIncidentsMissingFromLis (syncOperations umgebung welt poll.operations).1 poll.aktive) poll.backfill).2 →
        op.Gleich other := by
    intro op aktiv other first second
    rw [syncOperations_fst] at second
    obtain ⟨incident, found, linked⟩ := syncOperations_verknuepft vorne aktiv first
    obtain ⟨incident', found', still⟩ := closeIncidentsMissingFromLis_bleibt _ op id incident found linked
    exact syncOperations_gleich hinten aktiv found' still second
  rcases List.mem_append.mp linkA with firstA | secondA
  · rcases List.mem_append.mp linkB with firstB | secondB
    · exact syncOperations_getrennt vorne isA isB firstA firstB
    · exact later a isA b firstA secondB
  · rcases List.mem_append.mp linkB with firstB | secondB
    · exact (later b isB a firstB secondA).symm
    · rw [syncOperations_fst] at secondA secondB
      exact syncOperations_getrennt hinten isA isB secondA secondB

end Polls

section Eindeutigkeit

variable {umgebung : Umgebung} {welt neu : Welt}

theorem eindeutig_iff : welt.Eindeutig ↔ ∀ x y a b, welt.einsaetze.get? x = some a → welt.einsaetze.get? y = some b →
    a.lisOperationId ≠ none → a.lisOperationId = b.lisOperationId → x = y := by
  constructor
  · intro eindeutig x y a b isA isB given same
    have equal := eindeutig a (Keyed.mem_of_get? isA) b (Keyed.mem_of_get? isB) given same
    rwa [Keyed.key_of_get? isA, Keyed.key_of_get? isB] at equal
  · intro eindeutig a memberA b memberB given same
    exact eindeutig a.id b.id a b (Keyed.get?_of_mem memberA) (Keyed.get?_of_mem memberB) given same

theorem Welt.Eindeutig.of_rows (eindeutig : welt.Eindeutig)
    (rows : ∀ x a, neu.einsaetze.get? x = some a → a.lisOperationId ≠ none →
      ∃ alt, welt.einsaetze.get? x = some alt ∧ alt.lisOperationId = a.lisOperationId) : neu.Eindeutig := by
  rw [eindeutig_iff] at eindeutig ⊢
  intro x y a b isA isB given same
  obtain ⟨altA, wasA, sameA⟩ := rows x a isA given
  obtain ⟨altB, wasB, sameB⟩ := rows y b isB (same ▸ given)
  refine eindeutig x y altA altB wasA wasB ?_ ((sameA.trans same).trans sameB.symm)
  rw [sameA]
  exact given

theorem syncOperation_eindeutig (eintrag : Eintrag) (eindeutig : welt.Eindeutig) :
    (syncOperation umgebung welt eintrag).1.Eindeutig := by
  rcases syncOperation_cases umgebung welt eintrag with nichts | ⟨-, neu, id, row, written, geschrieben⟩
  · rw [nichts]
    exact eindeutig
  rw [written]
  rcases geschrieben.link with ⟨alt, isAlt, -, kept, -⟩ | ⟨byId, isNew, -⟩
  · refine eindeutig.of_rows fun x a found _ => ?_
    rw [geschrieben.rows] at found
    split at found
    · next same =>
      cases found
      exact ⟨alt, same ▸ isAlt, kept.symm⟩
    · exact ⟨a, found, rfl⟩
  · -- no other incident has the id of the operation
    have unused := findByLisOperationId_none byId geschrieben.gegeben
    rw [eindeutig_iff] at eindeutig ⊢
    intro x y a b isA isB given same
    rw [geschrieben.rows] at isA isB
    split at isA
    · next isX =>
      split at isB
      · next isY => exact isX.trans isY.symm
      · cases isA
        exact absurd (same.symm.trans isNew) (unused b (Keyed.mem_of_get? isB))
    · split at isB
      · cases isB
        exact absurd (same.trans isNew) (unused a (Keyed.mem_of_get? isA))
      · exact eindeutig x y a b isA isB given same

theorem closeIncidentsMissingFromLis_eindeutig (aktive : List Operation) (eindeutig : welt.Eindeutig) :
    (closeIncidentsMissingFromLis welt aktive).Eindeutig := by
  refine eindeutig.of_rows fun x a found _ => ?_
  rw [closeIncidentsMissingFromLis, Keyed.get?_map] at found
  obtain ⟨alt, isAlt, rfl⟩ := Option.map_eq_some_iff.mp found
  exact ⟨alt, isAlt, (closeIfMissing_link _ alt).2.1.symm⟩

theorem step_eindeutig (aktion : Aktion) (eindeutig : welt.Eindeutig) : (step umgebung welt aktion).Eindeutig := by
  cases aktion with
  | poll poll =>
    simp only [step]
    rw [syncOrganization_fst]
    have operationen : ∀ eintraege (w : Welt), w.Eindeutig → (nachOperationen umgebung w eintraege).Eindeutig :=
      fun eintraege w held => run_invariant Welt.Eindeutig (fun _ eintrag => syncOperation_eindeutig eintrag) held eintraege
    exact operationen _ _ (closeIncidentsMissingFromLis_eindeutig _ (operationen _ _ eindeutig))
  | anlegen neu =>
    simp only [step]
    split
    · exact eindeutig
    · refine eindeutig.of_rows fun x a found given => ?_
      rcases Keyed.get?_insert_cases found with old | ⟨-, rfl⟩
      · exact ⟨a, old, rfl⟩
      · exact absurd rfl given
  | aendern id neu =>
    simp only [step]
    split
    · split
      · exact eindeutig
      · refine eindeutig.of_rows fun x a found _ => ?_
        rcases @Keyed.get?_modify_cases _ _ _ _ _ _ _ (fremdGeaendert_id neu) found with ⟨-, old⟩ | ⟨isId, alt, isAlt, rfl⟩
        · exact ⟨a, old, rfl⟩
        · exact ⟨alt, isId ▸ isAlt, rfl⟩
    · exact eindeutig
  | loeschen id =>
    refine eindeutig.of_rows fun x a found _ => ?_
    have read : (welt.einsaetze.delete id).get? x = some a := found
    rw [Keyed.get?_delete] at read
    split at read
    · cases read
    · exact ⟨a, read, rfl⟩

end Eindeutigkeit

variable (umgebung : Umgebung)

/-- In every run whose polls meet the condition an operation's id has one
incident at most, an incident stays with an operation that is active, and
operations that are active and differ are linked to different incidents. -/
theorem einsaetze_eineindeutig (start : Welt) (eindeutig : start.Eindeutig) (aktionen : List Aktion)
    (zulaessig : Meets (step umgebung) (Zulaessig umgebung) start aktionen) :
    (run (step umgebung) start aktionen).Eindeutig ∧
      ∀ erste poll zweite, aktionen = erste ++ .poll poll :: zweite →
        let welt := run (step umgebung) start erste
        (∀ a ∈ poll.aktive, ∀ b ∈ poll.aktive, ∀ id, (a, id) ∈ (syncOrganization umgebung welt poll).2 →
          (b, id) ∈ (syncOrganization umgebung welt poll).2 → a.Gleich b) ∧
          ∀ o ∈ poll.aktive, BleibtVerknuepft welt (step umgebung welt (.poll poll)) o := by
  refine ⟨run_invariant Welt.Eindeutig (fun _ aktion => step_eindeutig aktion) eindeutig aktionen, ?_⟩
  intro erste poll zweite parts welt
  rw [parts, meets_append] at zulaessig
  have passt : PollPasst umgebung welt poll := zulaessig.2.1
  exact ⟨fun a isA b isB id => syncOrganization_getrennt passt isA isB, fun o aktiv => syncOrganization_bleibt passt aktiv⟩

section Beispiel

def probe : Umgebung := { lower := fun s => String.ofList (s.toList.map Char.toLower), bekannt := fun _ => true }

def ohneLis : Incident where
  id := 1
  alarmTypeCode := "T1"
  startedAt := some 0
  addressStreet := some "Unterlinden"
  addressCity := some "Wolfurt"

def gemeldet : Welt where
  einsaetze := { rows := [ohneLis], last := 1, nodup := by decide, fresh := by decide }

def unterlinden (id : String) (number : Option String) : Operation :=
  { lisOperationId := some id, lisOperationNumber := number, street := some "UNTERLINDEN", houseNo := some "23", city := some "Wolfurt",
    startedAt := some (minuten 5) }

def achstrasse : Operation :=
  { lisOperationId := some "b", lisOperationNumber := some "f2", street := some "Achstr.", city := some "Wolfurt" }

/-- The incident is linked, its operation gets another id, ends, and begins
anew. -/
def ablauf : List Aktion :=
  [.poll { operations := [{ op := unterlinden "a" (some "f1") }, { op := achstrasse }] },
    .aendern 2 (fun incident => { incident with addressCity := some "Bregenz" }),
    .poll { operations := [{ op := achstrasse }, { op := unterlinden "a2" (some "f1") }] },
    .poll { operations := [], backfill := [{ op := { unterlinden "a2" (some "f1") with isClosed := true } }] },
    .poll { operations := [{ op := unterlinden "a2" (some "f1") }] }]

theorem einsaetze_eineindeutig_ablauf :
    (run (step probe) gemeldet ablauf).einsaetze.rows.map (fun i => (i.id, i.status, i.lisOperationId)) =
        [(1, .active, some "a2"), (2, .closed, some "b")] ∧
      (run (step probe) gemeldet ablauf).Eindeutig :=
  ⟨by decide +kernel, (einsaetze_eineindeutig probe gemeldet (by decide +kernel) ablauf (by decide +kernel)).1⟩

def zwei : Poll := { operations := [{ op := unterlinden "a" (some "f1") }, { op := unterlinden "c" (some "f3") }] }

/-- Two operations that are active are linked to one incident, and it is taken
from the one it was linked to. -/
theorem einsatz_vergeben :
    unterlinden "a" (some "f1") ∈ zwei.aktive ∧ unterlinden "c" (some "f3") ∈ zwei.aktive ∧
      ¬ (unterlinden "a" (some "f1")).Gleich (unterlinden "c" (some "f3")) ∧
      (syncOrganization probe gemeldet zwei).2 = [(unterlinden "a" (some "f1"), 1), (unterlinden "c" (some "f3"), 1)] ∧
      (∀ incident ∈ (run (step probe) gemeldet [.poll { operations := [{ op := unterlinden "a" (some "f1") }] }]).einsaetze.get? 1,
        incident.Verknuepft (unterlinden "a" (some "f1"))) ∧
      ∀ incident ∈ (run (step probe) gemeldet
          [.poll { operations := [{ op := unterlinden "a" (some "f1") }] }, .poll zwei]).einsaetze.get? 1,
        ¬ incident.Verknuepft (unterlinden "a" (some "f1")) := by
  refine ⟨?_, ?_, ?_, ?_, ?_, ?_⟩ <;> decide +kernel

end Beispiel

end Einsatzcockpit.Lis
