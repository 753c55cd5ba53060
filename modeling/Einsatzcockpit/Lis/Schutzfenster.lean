import Einsatzcockpit.Lib.Run
import Einsatzcockpit.Lis.Import

/-! A status that is set here, its way to LIS, and the polls that still deliver
the one before it, `lis_sync.py`. -/

namespace Einsatzcockpit.Lis

section Daten

/-- `UNIT_STATUS_VALUES` -/
def unitStatusValues : List String := ["Einsatz übernommen", "Am Einsatzort", "Einsatzbereit"]

/-- What LIS has as the status of the unit. For the record: how many changes had been
made here when it came about, and whether it was sent from here. -/
structure LisStatus where
  label : Option String
  bei : Nat := 0
  gesendet : Bool := false

structure StatusTyp where
  label : Option String
  id : Option String
  deriving DecidableEq

inductive Pushphase where
  | wartet
  | vorbereitet
  | sendet (versuch : Nat) (ziel : StatusTyp)
  | gesendet
  deriving DecidableEq

structure Push where
  status : String
  praefix : String
  phase : Pushphase := .wartet
  bekannt : unitStatusToLisPrefix status = some praefix

/-- The row of a vehicle, LIS, the pushes under way and the polls that have been
fetched. For the record: how many times the status has been set here, when the one
that stands was, when a push of it came back, and the push that came back last since
a status of LIS was taken over. -/
structure Schutzwelt (κ : Type) where
  jetzt : Zeit
  vehicle : IncidentVehicle
  lis : LisStatus
  pushes : List Push := []
  polls : List (Unit κ × LisStatus) := []
  aenderungen : Nat := 0
  lokalSeit : Option Zeit := none
  bestaetigtAt : Option Zeit := none
  letzter : Option (String × Zeit) := none

/-- The answer to `SetOperationUnitStatus`; a failed call may have arrived. -/
inductive Antwort where
  | angenommen
  | fehler (angekommen : Bool)

inductive Statuszug (κ : Type) where
  | vergehe (dauer : Nat)
  | lokal (status : String)
  | bereite (i : Nat) (darfSenden : Bool)
  | katalog (i : Nat) (typen : Option (List StatusTyp))
  | sende (i : Nat) (antwort : Antwort)
  | beende (i : Nat)
  | lis (label : Option String)
  | hole (unit : Unit κ)
  | verarbeite (i : Nat)

end Daten

section Push

variable {κ ο ρ : Type} (quelle : Quelle κ ο ρ)

/-- The type of the catalogue that `push_vehicle_status_to_lis` sends. -/
def zielTyp (praefix : String) (typen : List StatusTyp) : Option StatusTyp :=
  (typen.find? fun typ => praefix.toList <+: (quelle.upper (strip (typ.label.getD ""))).toList).filter
    fun typ => (orNone typ.id).isSome

/-- `push_vehicle_status_to_lis` at its start. -/
def starte (status : String) : List Push :=
  match bekannt : unitStatusToLisPrefix status with
  | some praefix => [{ status, praefix, bekannt }]
  | none => []

namespace Schutzwelt

variable (w : Schutzwelt κ)

def weiter (i : Nat) (push : Push) (phase : Pushphase) : Schutzwelt κ :=
  { w with pushes := w.pushes.set i { push with phase } }

def abgebrochen (i : Nat) : Schutzwelt κ := { w with pushes := w.pushes.eraseIdx i }

/-- `_prepare_vehicle_status_push_sync`; `darfSenden` is what it asks beside the row:
whose vehicle it is, the exercise guard and the configuration. -/
def bereite (i : Nat) (push : Push) (darfSenden : Bool) : Schutzwelt κ :=
  if orNone w.vehicle.lisOperationUnitId = none then w.abgebrochen i
  else if w.vehicle.lisPushedStatus = some push.praefix ∧ lokalStatusGeschuetzt w.jetzt w.vehicle = true then w.abgebrochen i
  else if darfSenden then w.weiter i push .vorbereitet
  else w.abgebrochen i

def mitGesendetem (ziel : StatusTyp) : Schutzwelt κ :=
  { w with lis := { label := ziel.label, bei := w.aenderungen, gesendet := true } }

def sende (i : Nat) (push : Push) (versuch : Nat) (ziel : StatusTyp) : Antwort → Schutzwelt κ
  | .angenommen => (w.mitGesendetem ziel).weiter i push .gesendet
  | .fehler angekommen =>
    let w := if angekommen then w.mitGesendetem ziel else w
    if versuch < 3 then w.weiter i push (.sendet (versuch + 1) ziel) else w.abgebrochen i

/-- `_finish_vehicle_status_push_sync` -/
def beende (i : Nat) (push : Push) : Schutzwelt κ :=
  { w.abgebrochen i with
    vehicle := { w.vehicle with lisPushedStatus := some push.praefix, lisPushedAt := some w.jetzt }
    bestaetigtAt := if unitStatusToLisPrefix w.vehicle.unitStatus = some push.praefix then some w.jetzt else w.bestaetigtAt
    letzter := some (push.praefix, w.jetzt) }

/-- The local change: `set_unit_status` and the push, where the status is another. -/
def lokal (status : String) : Schutzwelt κ :=
  if status ∉ unitStatusValues ∨ status = w.vehicle.unitStatus then w
  else
    { w with
      vehicle := { w.vehicle with unitStatus := status }
      pushes := w.pushes ++ starte status
      aenderungen := w.aenderungen + 1
      lokalSeit := some w.jetzt
      bestaetigtAt := none }

/-- `_sync_vehicle_status` on the row, with a unit that has been fetched. -/
def verarbeite (i : Nat) (unit : Unit κ) : Schutzwelt κ :=
  let vehicle := aktualisiert quelle w.jetzt unit w.vehicle
  let polls := w.polls.eraseIdx i
  if vehicle.unitStatus = w.vehicle.unitStatus then { w with vehicle, polls }
  else { w with vehicle, polls, lokalSeit := none, bestaetigtAt := none, letzter := none }

def step : Statuszug κ → Schutzwelt κ
  | .vergehe dauer => { w with jetzt := w.jetzt + dauer }
  | .lokal status => w.lokal status
  | .bereite i darfSenden =>
    match w.pushes[i]? with
    | some push => if push.phase = .wartet then w.bereite i push darfSenden else w
    | none => w
  | .katalog i typen =>
    match w.pushes[i]? with
    | some push =>
      if push.phase = .vorbereitet then
        match typen.bind (zielTyp quelle push.praefix) with
        | some ziel => w.weiter i push (.sendet 1 ziel)
        | none => w.abgebrochen i
      else w
    | none => w
  | .sende i antwort =>
    match w.pushes[i]? with
    | some push =>
      match push.phase with
      | .sendet versuch ziel => w.sende i push versuch ziel antwort
      | _ => w
    | none => w
  | .beende i =>
    match w.pushes[i]? with
    | some push => if push.phase = .gesendet then w.beende i push else w
    | none => w
  | .lis label => { w with lis := { label, bei := w.aenderungen } }
  | .hole unit => { w with polls := w.polls ++ [({ unit with statusLabel := w.lis.label }, w.lis)] }
  | .verarbeite i =>
    match w.polls[i]? with
    | some (unit, _) => w.verarbeite quelle i unit
    | none => w

def anfang (jetzt : Zeit) (vehicle : IncidentVehicle) (lis : LisStatus) : Schutzwelt κ :=
  { jetzt, vehicle := { vehicle with lisPushedStatus := none, lisPushedAt := none }, lis := { lis with bei := 0 } }

/-- The window of a status that was set here: thirty seconds since, or since a push of
it came back. -/
def Offen : Prop := ∃ seit, w.lokalSeit = some seit ∧ w.jetzt - w.bestaetigtAt.getD seit < sekunden 30

def Neuer (geholt : LisStatus) : Prop := geholt.bei = w.aenderungen ∧ geholt.gesendet = false

/-- The push that came back last, since a status of LIS was taken over, carried the
status that stands, less than thirty seconds ago. -/
def Bestaetigt : Prop := ∃ praefix zurueck, w.letzter = some (praefix, zurueck) ∧
  unitStatusToLisPrefix w.vehicle.unitStatus = some praefix ∧ w.jetzt - zurueck < sekunden 30

/-- A poll with another status: one from before the change comes after the push of
the standing status and before any other push has come back, and a newer one only
after thirty seconds. -/
def Rechtzeitig : Statuszug κ → Prop
  | .verarbeite i => ∀ unit geholt, w.polls[i]? = some (unit, geholt) →
      ∀ status, mapUnitStatus quelle geholt.label = some status → status ≠ w.vehicle.unitStatus →
        (w.Offen → geholt.bei < w.aenderungen → w.Bestaetigt) ∧
          (w.lokalSeit = none ∨ w.Neuer geholt → ¬ w.Bestaetigt)
  | _ => True

/-- The marker of the row is the push that came back last, and none is later than the
window of the status that stands. -/
structure Gemerkt : Prop where
  status : w.vehicle.lisPushedStatus = w.letzter.map (·.1)
  zeit : w.vehicle.lisPushedAt = w.letzter.map (·.2)
  bekannt : ∀ praefix zurueck, w.letzter = some (praefix, zurueck) → praefix ≠ ""
  vergangen : ∀ praefix zurueck, w.letzter = some (praefix, zurueck) → zurueck ≤ w.jetzt
  fenster : ∀ seit praefix zurueck, w.lokalSeit = some seit → w.letzter = some (praefix, zurueck) →
    unitStatusToLisPrefix w.vehicle.unitStatus = some praefix → zurueck ≤ w.bestaetigtAt.getD seit
  geholt : ∀ poll ∈ w.polls, poll.1.statusLabel = poll.2.label

end Schutzwelt

end Push

section Merken

variable {κ ο ρ : Type} {quelle : Quelle κ ο ρ} {w : Schutzwelt κ}

open Schutzwelt

theorem unitStatusToLisPrefix_ne_empty {status praefix : String} (known : unitStatusToLisPrefix status = some praefix) :
    praefix ≠ "" := by
  rintro rfl
  obtain ⟨before, after, parts, -⟩ := List.lookup_eq_some_iff.mp known
  have member : (status, "") ∈ before ++ (status, "") :: after := List.mem_append_right before (List.mem_cons_self ..)
  rw [← parts] at member
  simp at member

theorem aktualisiert_cases (quelle : Quelle κ ο ρ) (jetzt : Zeit) (unit : Unit κ) (v : IncidentVehicle) :
    (∃ status, mapUnitStatus quelle unit.statusLabel = some status ∧ v.unitStatus ≠ status ∧
      lokalStatusGeschuetzt jetzt v = false ∧ (aktualisiert quelle jetzt unit v).unitStatus = status ∧
      (aktualisiert quelle jetzt unit v).lisPushedStatus = none ∧ (aktualisiert quelle jetzt unit v).lisPushedAt = none) ∨
    ((∀ status, mapUnitStatus quelle unit.statusLabel = some status → v.unitStatus ≠ status → lokalStatusGeschuetzt jetzt v = true) ∧
      (aktualisiert quelle jetzt unit v).unitStatus = v.unitStatus ∧
      (aktualisiert quelle jetzt unit v).lisPushedStatus = v.lisPushedStatus ∧
      (aktualisiert quelle jetzt unit v).lisPushedAt = v.lisPushedAt) := by
  obtain ⟨id, isId⟩ : ∃ id, mitEinheit unit v = { v with lisOperationUnitId := id } := by
    unfold mitEinheit
    split
    · split
      · exact ⟨_, rfl⟩
      · exact ⟨v.lisOperationUnitId, rfl⟩
    · exact ⟨v.lisOperationUnitId, rfl⟩
  have same : lokalStatusGeschuetzt jetzt { v with lisOperationUnitId := id } = lokalStatusGeschuetzt jetzt v := rfl
  unfold aktualisiert mitStatus
  rw [isId]
  cases mapped : mapUnitStatus quelle unit.statusLabel with
  | none => exact Or.inr ⟨nofun, rfl, rfl, rfl⟩
  | some status =>
    dsimp only
    rw [same]
    split
    · next written => exact Or.inl ⟨status, rfl, written.1, written.2, rfl, rfl, rfl⟩
    · next kept =>
      refine Or.inr ⟨?_, rfl, rfl, rfl⟩
      rintro _ ⟨⟩ differs
      exact Bool.eq_true_of_not_eq_false fun unprotected => kept ⟨differs, unprotected⟩

def Schutzwelt.Rahmen (w w' : Schutzwelt κ) : Prop := ∃ lis pushes, w' = { w with lis, pushes }

theorem Schutzwelt.Rahmen.refl (w : Schutzwelt κ) : w.Rahmen w := ⟨w.lis, w.pushes, rfl⟩

theorem rahmen_bereite (i : Nat) (push : Push) (darfSenden : Bool) : w.Rahmen (w.bereite i push darfSenden) := by
  unfold Schutzwelt.bereite
  split_ifs <;> exact ⟨_, _, rfl⟩

theorem rahmen_sende (i : Nat) (push : Push) (versuch : Nat) (ziel : StatusTyp) (antwort : Antwort) :
    w.Rahmen (w.sende i push versuch ziel antwort) := by
  cases antwort with
  | angenommen => exact ⟨_, _, rfl⟩
  | fehler angekommen =>
    unfold Schutzwelt.sende
    cases angekommen <;> dsimp only <;> split_ifs <;> exact ⟨_, _, rfl⟩

theorem rahmen_step (quelle : Quelle κ ο ρ) (w : Schutzwelt κ) :
    (∀ i darfSenden, w.Rahmen (w.step quelle (.bereite i darfSenden))) ∧
      (∀ i typen, w.Rahmen (w.step quelle (.katalog i typen))) ∧
      (∀ i antwort, w.Rahmen (w.step quelle (.sende i antwort))) ∧
      (∀ label, w.Rahmen (w.step quelle (.lis label))) := by
  refine ⟨fun i darfSenden => ?_, fun i typen => ?_, fun i antwort => ?_, fun label => ⟨_, _, rfl⟩⟩
  · unfold Schutzwelt.step
    dsimp only
    split
    · split
      · exact rahmen_bereite i _ darfSenden
      · exact .refl w
    · exact .refl w
  · unfold Schutzwelt.step
    dsimp only
    split
    · split
      · split <;> exact ⟨_, _, rfl⟩
      · exact .refl w
    · exact .refl w
  · unfold Schutzwelt.step
    dsimp only
    split
    · split
      · exact rahmen_sende i _ _ _ antwort
      · exact .refl w
    · exact .refl w

theorem Schutzwelt.Gemerkt.of_rahmen {w' : Schutzwelt κ} (gemerkt : w.Gemerkt) (rahmen : w.Rahmen w') : w'.Gemerkt := by
  obtain ⟨lis, pushes, rfl⟩ := rahmen
  exact ⟨gemerkt.status, gemerkt.zeit, gemerkt.bekannt, gemerkt.vergangen, gemerkt.fenster, gemerkt.geholt⟩

section

variable (gemerkt : w.Gemerkt)
include gemerkt

theorem Schutzwelt.Gemerkt.vergehe (dauer : Nat) : (w.step quelle (.vergehe dauer)).Gemerkt :=
  { gemerkt with
    vergangen := fun praefix zurueck isLast =>
      (gemerkt.vergangen praefix zurueck isLast).trans (le_add_of_nonneg_right (Int.natCast_nonneg dauer))
    fenster := gemerkt.fenster }

theorem Schutzwelt.Gemerkt.lokal (status : String) : (w.lokal status).Gemerkt := by
  unfold Schutzwelt.lokal
  split
  · exact gemerkt
  · refine { gemerkt with fenster := ?_ }
    rintro _ praefix zurueck ⟨⟩ isLast -
    exact gemerkt.vergangen praefix zurueck isLast

theorem Schutzwelt.Gemerkt.beende (i : Nat) (push : Push) : (w.beende i push).Gemerkt where
  status := rfl
  zeit := rfl
  bekannt := by
    rintro _ _ ⟨⟩
    exact unitStatusToLisPrefix_ne_empty push.bekannt
  vergangen := by
    rintro _ _ ⟨⟩
    exact le_rfl
  fenster := by
    rintro seit _ _ - ⟨⟩ known
    have again : (w.beende i push).bestaetigtAt = some w.jetzt := if_pos known
    rw [again]
    exact le_rfl
  geholt := gemerkt.geholt

theorem Schutzwelt.Gemerkt.verarbeite (i : Nat) (unit : Unit κ) :
    (w.verarbeite quelle i unit).Gemerkt := by
  have geholt : ∀ poll ∈ w.polls.eraseIdx i, poll.1.statusLabel = poll.2.label :=
    fun poll member => gemerkt.geholt poll (List.mem_of_mem_eraseIdx member)
  unfold Schutzwelt.verarbeite
  dsimp only
  rcases aktualisiert_cases quelle w.jetzt unit w.vehicle with
    ⟨status, -, differs, -, written, noStatus, noTime⟩ | ⟨-, same, sameStatus, sameTime⟩
  · rw [if_neg fun unchanged => differs (unchanged.symm.trans written)]
    exact ⟨noStatus, noTime, nofun, nofun, nofun, geholt⟩
  · rw [if_pos same]
    refine ⟨sameStatus.trans gemerkt.status, sameTime.trans gemerkt.zeit, gemerkt.bekannt, gemerkt.vergangen, ?_, geholt⟩
    intro seit praefix zurueck lokal isLast known
    exact gemerkt.fenster seit praefix zurueck lokal isLast (same ▸ known)

theorem Schutzwelt.Gemerkt.step (zug : Statuszug κ) : (w.step quelle zug).Gemerkt := by
  obtain ⟨bereite, katalog, sende, lis⟩ := rahmen_step quelle w
  cases zug with
  | vergehe dauer => exact gemerkt.vergehe dauer
  | lokal status => exact gemerkt.lokal status
  | bereite i darfSenden => exact gemerkt.of_rahmen (bereite i darfSenden)
  | katalog i typen => exact gemerkt.of_rahmen (katalog i typen)
  | sende i antwort => exact gemerkt.of_rahmen (sende i antwort)
  | beende i =>
    unfold Schutzwelt.step
    dsimp only
    split
    · split
      · exact gemerkt.beende i _
      · exact gemerkt
    · exact gemerkt
  | lis label => exact gemerkt.of_rahmen (lis label)
  | hole unit =>
    refine { gemerkt with geholt := fun poll member => ?_ }
    rcases List.mem_append.mp member with old | new
    · exact gemerkt.geholt poll old
    · rw [List.mem_singleton.mp new]
  | verarbeite i =>
    unfold Schutzwelt.step
    dsimp only
    split
    · exact gemerkt.verarbeite i _
    · exact gemerkt

end

end Merken

section Beispiel

def anfahrt : IncidentVehicle :=
  { id := 1, columnId := 1, vehicleMasterId := 1, unitStatus := "Einsatz übernommen", lisOperationUnitId := some "u1" }

end Beispiel

end Einsatzcockpit.Lis
