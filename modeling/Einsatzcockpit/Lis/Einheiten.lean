import Einsatzcockpit.Lib.Run
import Einsatzcockpit.Lis.Import
import Mathlib.Data.List.Find

namespace Einsatzcockpit.Lis

open Relational Transition

variable {κ ο ρ : Type} {quelle : Quelle κ ο ρ}

section Suchen

variable {α : Type} {p : α → Bool} {f : α → α} {list : List α} {a : α}

theorem find?_map_of_imp (weaker : ∀ x ∈ list, p (f x) = true → p x = true) (found : list.find? p = some a) (still : p (f a) = true) :
    (list.map f).find? p = some (f a) := by
  induction list with
  | nil => cases found
  | cons x rest ih =>
    rw [List.map_cons]
    by_cases first : p x = true
    · rw [List.find?_cons_of_pos first] at found
      cases found
      exact List.find?_cons_of_pos still
    · rw [List.find?_cons_of_neg first] at found
      have passed : ¬ p (f x) = true := fun matched => first (weaker x (List.mem_cons_self ..) matched)
      rw [List.find?_cons_of_neg passed]
      exact ih (fun y member => weaker y (List.mem_cons_of_mem _ member)) found

theorem find?_map_none (weaker : ∀ x ∈ list, p (f x) = true → p x = true) (missing : list.find? p = none) :
    (list.map f).find? p = none := by
  refine List.find?_eq_none.mpr fun y member matched => ?_
  obtain ⟨x, isElement, rfl⟩ := List.mem_map.mp member
  exact List.find?_eq_none.mp missing x isElement (weaker x isElement matched)

theorem find?_append_none {new : α} (missing : list.find? p = none) (other : p new = false) : (list ++ [new]).find? p = none := by
  rw [List.find?_append, missing, Option.none_or, List.find?_cons_of_neg (by rw [other]; exact Bool.false_ne_true), List.find?_nil]

theorem find?_append_new {new : α} (missing : list.find? p = none) (matched : p new = true) : (list ++ [new]).find? p = some new := by
  rw [List.find?_append, missing, Option.none_or, List.find?_cons_of_pos matched]

end Suchen

section Stammdaten

variable {masters neu : Keyed VehicleMaster.id} {unit : Unit κ} {ref : String} {masterId : Nat}

def mitRef (ref : String) (master : VehicleMaster) : Bool := master.lisReferenceId == some ref

theorem findeMaster_some (found : findeMaster quelle masters unit = some (neu, masterId)) :
    ∃ ref, unit.referenz = some ref ∧
      ((∃ row, masters.rows.find? (mitRef ref) = some row ∧ row.id = masterId ∧ neu = masters) ∨
        masters.rows.find? (mitRef ref) = none ∧ quelle.syncExternalUnits = true ∧ unit.unitType = some "Vehicle" ∧
          ∃ name, orNone unit.name = some name ∧
            ((∃ row, masters.rows.find? (gleichesFremdes quelle unit ref) = some row ∧ row.id = masterId ∧
                neu = masters.modify masterId (mitReferenz ref) (mitReferenz_id ref)) ∨
              masters.rows.find? (gleichesFremdes quelle unit ref) = none ∧ masterId = masters.last + 1 ∧
                neu = masters.insert (externalVehicle quelle unit ref name masters.rows.length)
                  (externalVehicle_id quelle unit ref name masters.rows.length))) := by
  obtain ⟨ref, isRef, direct⟩ := Option.bind_eq_some_iff.mp found
  refine ⟨ref, isRef, ?_⟩
  have sameFind : masters.rows.find? (fun m => m.lisReferenceId == some ref) = masters.rows.find? (mitRef ref) := rfl
  rw [sameFind] at direct
  cases byRef : masters.rows.find? (mitRef ref) with
  | some row =>
    rw [byRef] at direct
    cases direct
    exact Or.inl ⟨row, rfl, rfl, rfl⟩
  | none =>
    rw [byRef] at direct
    dsimp only at direct
    split at direct
    · next aussen =>
      refine Or.inr ⟨rfl, aussen.1, aussen.2, ?_⟩
      unfold getOrCreateExternalVehicle at direct
      split at direct
      · cases direct
      next name isName =>
      refine ⟨name, isName, ?_⟩
      -- no row has the reference, so none of the foreign ones has it
      have unused : masters.rows.find? (fun m => m.lisReferenceId == some ref && m.isExternal && !m.deleted) = none := by
        refine List.find?_eq_none.mpr fun m member matched => List.find?_eq_none.mp byRef m member ?_
        simp only [Bool.and_eq_true] at matched
        exact matched.1.1
      rw [unused] at direct
      dsimp only at direct
      split at direct
      · next row isRow =>
        cases direct
        exact Or.inl ⟨row, isRow, rfl, rfl⟩
      · next fremd =>
        cases direct
        exact Or.inr ⟨fremd, rfl, rfl⟩
    · cases direct

variable {row : VehicleMaster} {name : String}

theorem findeMaster_direct (isRef : unit.referenz = some ref)
    (found : masters.rows.find? (mitRef ref) = some row) : findeMaster quelle masters unit = some (masters, row.id) := by
  have same : masters.rows.find? (fun m => m.lisReferenceId == some ref) = some row := found
  rw [findeMaster, isRef, Option.bind_some, same]

theorem findeMaster_fremd (isRef : unit.referenz = some ref)
    (missing : masters.rows.find? (mitRef ref) = none) (aussen : quelle.syncExternalUnits = true) (isVehicle : unit.unitType = some "Vehicle")
    (isName : orNone unit.name = some name) (found : masters.rows.find? (gleichesFremdes quelle unit ref) = some row)
    (known : mitReferenz ref row = row) : findeMaster quelle masters unit = some (masters, row.id) := by
  have byRef : masters.rows.find? (fun m => m.lisReferenceId == some ref) = none := missing
  have unused : masters.rows.find? (fun m => m.lisReferenceId == some ref && m.isExternal && !m.deleted) = none := by
    refine List.find?_eq_none.mpr fun m member matched => List.find?_eq_none.mp missing m member ?_
    simp only [Bool.and_eq_true] at matched
    exact matched.1.1
  have kept : masters.modify row.id (mitReferenz ref) (mitReferenz_id ref) = masters :=
    Keyed.modify_of_self (Keyed.get?_of_mem (List.mem_of_find?_eq_some found)) known
  rw [findeMaster, isRef, Option.bind_some, byRef]
  dsimp only
  rw [if_pos ⟨aussen, isVehicle⟩, getOrCreateExternalVehicle, isName]
  dsimp only
  rw [unused]
  dsimp only
  rw [found]
  dsimp only
  rw [kept]

/-- A reference that fits into its column, or the name of an organisation that
does. -/
def Unit.Passt (quelle : Quelle κ ο ρ) (unit : Unit κ) : Prop :=
  ∀ ref ∈ unit.referenz, ref.length ≤ 60 ∨ (externalOrgName quelle unit).length ≤ 150

instance (unit : Unit κ) : Decidable (unit.Passt quelle) := by
  unfold Unit.Passt
  infer_instance

theorem clip_of_le {n : Nat} {s : String} (short : s.length ≤ n) : clip n s = s := by
  rw [clip, List.take_of_length_le (by rw [String.length_toList]; exact short), String.ofList_toList]

theorem clip_clip (n : Nat) (s : String) : clip n (clip n s) = clip n s := by
  simp [clip, List.take_take]

theorem mitReferenz_mitReferenz (ref : String) (master : VehicleMaster) :
    mitReferenz ref (mitReferenz ref master) = mitReferenz ref master := rfl

/-- The row that `modify` writes. -/
def ersetzt (masterId : Nat) (ref : String) (master : VehicleMaster) : VehicleMaster :=
  if master.id = masterId then mitReferenz ref master else master

theorem gleichesFremdes_ersetzt (unit : Unit κ) (ref other : String) (masterId : Nat) (master : VehicleMaster) :
    gleichesFremdes quelle unit ref (ersetzt masterId other master) = gleichesFremdes quelle unit ref master := by
  unfold ersetzt
  split <;> rfl

theorem findeMaster_modify (isRef : unit.referenz = some ref)
    (missing : masters.rows.find? (mitRef ref) = none) (aussen : quelle.syncExternalUnits = true) (isVehicle : unit.unitType = some "Vehicle")
    (isName : orNone unit.name = some name) (found : masters.rows.find? (gleichesFremdes quelle unit ref) = some row) :
    findeMaster quelle (masters.modify row.id (mitReferenz ref) (mitReferenz_id ref)) unit =
      some (masters.modify row.id (mitReferenz ref) (mitReferenz_id ref), row.id) := by
  have rows : (masters.modify row.id (mitReferenz ref) (mitReferenz_id ref)).rows = masters.rows.map (ersetzt row.id ref) := rfl
  have member := List.mem_of_find?_eq_some found
  have self : ersetzt row.id ref row = mitReferenz ref row := if_pos rfl
  by_cases short : ref.length ≤ 60
  · -- the reference is stored as it is
    have matched : mitRef ref (mitReferenz ref row) = true := by
      rw [mitRef, mitReferenz, clip_of_le short, beq_self_eq_true]
    have only : ∀ x ∈ masters.rows, mitRef ref (ersetzt row.id ref x) = (x.id == row.id) := by
      intro x isRow
      unfold ersetzt
      split
      · next same =>
        rw [same, beq_self_eq_true, mitRef, mitReferenz, clip_of_le short, beq_self_eq_true]
      · next differs =>
        rw [beq_eq_false_iff_ne.mpr differs]
        exact Bool.eq_false_of_not_eq_true (List.find?_eq_none.mp missing x isRow)
    have byId : masters.rows.find? (mitRef ref ∘ ersetzt row.id ref) = some row := by
      have found' : masters.rows.find? (fun x => x.id == row.id) = some row := Keyed.get?_of_mem member
      rw [← found']
      exact List.find?_congr fun x isRow => only x isRow
    have direct : (masters.rows.map (ersetzt row.id ref)).find? (mitRef ref) = some (mitReferenz ref row) := by
      rw [List.find?_map, byId, Option.map_some, self]
    have again : findeMaster quelle (masters.modify row.id (mitReferenz ref) (mitReferenz_id ref)) unit =
        some (_, (mitReferenz ref row).id) := findeMaster_direct isRef (rows ▸ direct)
    exact again
  · have unmatched : ∀ x, mitRef ref (mitReferenz ref x) = false := by
      intro x
      refine beq_eq_false_iff_ne.mpr fun same => ?_
      have same' : clip 60 ref = ref := Option.some.inj same
      have length := congrArg String.length same'
      simp [clip] at length
      omega
    have missing' : (masters.rows.map (ersetzt row.id ref)).find? (mitRef ref) = none := by
      refine find?_map_none (fun x _ matched => ?_) missing
      unfold ersetzt at matched
      split at matched
      · rw [unmatched] at matched
        cases matched
      · exact matched
    have found' : (masters.rows.map (ersetzt row.id ref)).find? (gleichesFremdes quelle unit ref) = some (mitReferenz ref row) := by
      rw [← self]
      refine find?_map_of_imp (fun x _ matched => ?_) found ?_
      · rw [gleichesFremdes_ersetzt] at matched
        exact matched
      · rw [gleichesFremdes_ersetzt]
        exact List.find?_some found
    have again : findeMaster quelle (masters.modify row.id (mitReferenz ref) (mitReferenz_id ref)) unit =
        some (_, (mitReferenz ref row).id) :=
      findeMaster_fremd isRef missing' aussen isVehicle isName found' (mitReferenz_mitReferenz ref row)
    exact again

theorem findeMaster_insert (passt : unit.Passt quelle) (isRef : unit.referenz = some ref)
    (missing : masters.rows.find? (mitRef ref) = none) (aussen : quelle.syncExternalUnits = true) (isVehicle : unit.unitType = some "Vehicle")
    (isName : orNone unit.name = some name) (fremd : masters.rows.find? (gleichesFremdes quelle unit ref) = none) (displayOrder : Nat) :
    let neu := masters.insert (externalVehicle quelle unit ref name displayOrder) (externalVehicle_id quelle unit ref name displayOrder)
    findeMaster quelle neu unit = some (neu, masters.last + 1) := by
  intro neu
  have rows : neu.rows = masters.rows ++ [externalVehicle quelle unit ref name displayOrder (masters.last + 1)] := rfl
  by_cases short : ref.length ≤ 60
  · have matched : mitRef ref (externalVehicle quelle unit ref name displayOrder (masters.last + 1)) = true := by
      rw [mitRef, externalVehicle, clip_of_le short, beq_self_eq_true]
    exact findeMaster_direct isRef (rows ▸ find?_append_new missing matched)
  · have fits : (externalOrgName quelle unit).length ≤ 150 := (passt ref isRef).resolve_left short
    have unmatched : mitRef ref (externalVehicle quelle unit ref name displayOrder (masters.last + 1)) = false := by
      refine beq_eq_false_iff_ne.mpr fun same => ?_
      have same' : clip 60 ref = ref := Option.some.inj same
      have length := congrArg String.length same'
      simp [clip] at length
      omega
    have matched : gleichesFremdes quelle unit ref (externalVehicle quelle unit ref name displayOrder (masters.last + 1)) = true := by
      simp [gleichesFremdes, externalVehicle, clip_of_le fits]
    exact findeMaster_fremd isRef (rows ▸ find?_append_none missing unmatched) aussen isVehicle isName
      (rows ▸ find?_append_new fremd matched) rfl

theorem findeMaster_erneut (passt : unit.Passt quelle) (found : findeMaster quelle masters unit = some (neu, masterId)) :
    findeMaster quelle neu unit = some (neu, masterId) := by
  obtain ⟨ref, isRef, ⟨row, isRow, rfl, rfl⟩ | ⟨missing, aussen, isVehicle, name, isName, ⟨row, isRow, rfl, rfl⟩ | ⟨fremd, rfl, rfl⟩⟩⟩ :=
    findeMaster_some found
  · exact found
  · exact findeMaster_modify isRef missing aussen isVehicle isName isRow
  · exact findeMaster_insert passt isRef missing aussen isVehicle isName fremd masters.rows.length

/-- What another unit does to the master data: one row gets its reference, the
one of the vehicle it means. -/
structure Umgestellt (masters neu : Keyed VehicleMaster.id) (otherId : Nat) (stored : String) : Prop where
  mitRef_none : ∀ ref, ref ≠ stored → masters.rows.find? (mitRef ref) = none → neu.rows.find? (mitRef ref) = none
  mitRef_some : ∀ ref row, ref ≠ stored → row.id ≠ otherId → masters.rows.find? (mitRef ref) = some row →
    neu.rows.find? (mitRef ref) = some row
  fremdes : ∀ (quelle : Quelle κ ο ρ) (unit : Unit κ) ref row, row.id ≠ otherId →
    masters.rows.find? (gleichesFremdes quelle unit ref) = some row → neu.rows.find? (gleichesFremdes quelle unit ref) = some row

theorem umgestellt_modify (masters : Keyed VehicleMaster.id) (otherId : Nat) (other : String) :
    @Umgestellt κ ο ρ masters (masters.modify otherId (mitReferenz other) (mitReferenz_id other)) otherId (clip 60 other) := by
  have rows : (masters.modify otherId (mitReferenz other) (mitReferenz_id other)).rows = masters.rows.map (ersetzt otherId other) := rfl
  have kept : ∀ row : VehicleMaster, row.id ≠ otherId → ersetzt otherId other row = row := fun row differs => if_neg differs
  have weaker : ∀ ref, ref ≠ clip 60 other → ∀ x ∈ masters.rows, mitRef ref (ersetzt otherId other x) = true → mitRef ref x = true := by
    intro ref differs x _ matched
    unfold ersetzt at matched
    split at matched
    · exact absurd (Option.some.inj (beq_iff_eq.mp matched)).symm differs
    · exact matched
  refine ⟨fun ref differs missing => ?_, fun ref row differs elsewhere found => ?_, fun quelle unit ref row elsewhere found => ?_⟩
  · exact rows ▸ find?_map_none (weaker ref differs) missing
  · have still := List.find?_some found
    rw [← kept row elsewhere] at still
    have moved := find?_map_of_imp (weaker ref differs) found still
    rw [kept row elsewhere] at moved
    exact rows ▸ moved
  · have moved := @find?_map_of_imp _ (gleichesFremdes quelle unit ref) (ersetzt otherId other) masters.rows row
      (fun x _ matched => by rwa [gleichesFremdes_ersetzt] at matched) found
      (by rw [gleichesFremdes_ersetzt]; exact List.find?_some found)
    rw [kept row elsewhere] at moved
    exact rows ▸ moved

theorem umgestellt_insert {masters : Keyed VehicleMaster.id} {new : Nat → VehicleMaster} {numbered : ∀ id, (new id).id = id}
    {stored : String} (isStored : (new (masters.last + 1)).lisReferenceId = some stored) :
    @Umgestellt κ ο ρ masters (masters.insert new numbered) (masters.last + 1) stored := by
  have rows : (masters.insert new numbered).rows = masters.rows ++ [new (masters.last + 1)] := rfl
  refine ⟨fun ref differs missing => ?_, fun ref row _ _ found => ?_, fun quelle unit ref row _ found => ?_⟩
  · refine rows ▸ find?_append_none missing (beq_eq_false_iff_ne.mpr fun same => ?_)
    rw [isStored] at same
    exact differs (Option.some.inj same).symm
  · rw [rows, List.find?_append, found, Option.some_or]
  · rw [rows, List.find?_append, found, Option.some_or]

theorem findeMaster_bleibt {other : Unit κ} {otherId : Nat} (andere : findeMaster quelle masters other = some (neu, otherId))
    (verschieden : ∀ ref ∈ unit.referenz, ∀ ref' ∈ other.referenz, clip 60 ref ≠ clip 60 ref') :
    (findeMaster quelle masters unit = none → findeMaster quelle neu unit = none) ∧
      ∀ masterId, findeMaster quelle masters unit = some (masters, masterId) → masterId ≠ otherId →
        findeMaster quelle neu unit = some (neu, masterId) := by
  obtain ⟨ref', isRef', cases'⟩ := findeMaster_some andere
  have umgestellt : neu = masters ∨ @Umgestellt κ ο ρ masters neu otherId (clip 60 ref') := by
    rcases cases' with ⟨row, -, -, rfl⟩ | ⟨-, -, -, name, -, ⟨row, -, rfl, rfl⟩ | ⟨-, rfl, rfl⟩⟩
    · exact Or.inl rfl
    · exact Or.inr (umgestellt_modify masters row.id ref')
    · exact Or.inr (umgestellt_insert rfl)
  rcases umgestellt with rfl | wandel
  · exact ⟨id, fun masterId found _ => found⟩
  have stored : ∀ ref, unit.referenz = some ref → ref ≠ clip 60 ref' := by
    rintro ref isRef same
    refine verschieden ref isRef ref' isRef' ?_
    rw [same, clip_clip]
  refine ⟨fun missing => ?_, fun masterId found elsewhere => ?_⟩
  · cases isRef : unit.referenz with
    | none => rw [findeMaster, isRef, Option.bind_none]
    | some ref =>
      -- neither a row with the reference, nor a foreign vehicle that may be created
      have byRef : masters.rows.find? (mitRef ref) = none := by
        cases direct : masters.rows.find? (mitRef ref) with
        | none => rfl
        | some row =>
          rw [findeMaster_direct isRef direct] at missing
          cases missing
      have byRef' := wandel.mitRef_none ref (stored ref isRef) byRef
      have here : masters.rows.find? (fun m => m.lisReferenceId == some ref) = none := byRef
      have there : neu.rows.find? (fun m => m.lisReferenceId == some ref) = none := byRef'
      rw [findeMaster, isRef, Option.bind_some, here] at missing
      rw [findeMaster, isRef, Option.bind_some, there]
      dsimp only at missing ⊢
      split at missing
      · next aussen =>
        rw [if_pos aussen]
        unfold getOrCreateExternalVehicle at missing ⊢
        cases isName : orNone unit.name with
        | none => rfl
        | some name =>
          rw [isName] at missing
          dsimp only at missing
          split at missing
          · cases missing
          · split at missing <;> cases missing
      · next intern => rw [if_neg intern]
  · obtain ⟨ref, isRef, ⟨row, isRow, rfl, -⟩ | ⟨missing, aussen, isVehicle, name, isName, ⟨row, isRow, rfl, same⟩ | ⟨-, -, same⟩⟩⟩ :=
      findeMaster_some found
    · exact findeMaster_direct isRef (wandel.mitRef_some ref row (stored ref isRef) elsewhere isRow)
    · have stable : mitReferenz ref row = row := by
        have here : masters.get? row.id = some row := Keyed.get?_of_mem (List.mem_of_find?_eq_some isRow)
        have read := congrArg (fun table : Keyed VehicleMaster.id => table.get? row.id) same
        rw [Keyed.get?_modify, if_pos rfl, here, Option.map_some] at read
        exact (Option.some.inj read).symm
      exact findeMaster_fremd isRef (wandel.mitRef_none ref (stored ref isRef) missing) aussen isVehicle isName
        (wandel.fremdes quelle unit ref row elsewhere isRow) stable
    · have last := congrArg Keyed.last same
      have grown : masters.last = masters.last + 1 := last
      omega

end Stammdaten

section Fahrzeuge

variable {vehicles neu : Keyed IncidentVehicle.id} {unit : Unit κ} {jetzt : Zeit} {activeCol : Option Nat}
  {masterId : Nat}

def vonMaster (masterId : Nat) (v : IncidentVehicle) : Bool := v.vehicleMasterId == masterId && !v.removed

theorem aufBoard_eq (vehicles : Keyed IncidentVehicle.id) (masterId : Nat) :
    aufBoard vehicles masterId = vehicles.rows.find? (vonMaster masterId) := rfl

theorem mitEinheit_columns (unit : Unit κ) (v : IncidentVehicle) :
    (mitEinheit unit v).vehicleMasterId = v.vehicleMasterId ∧ (mitEinheit unit v).removed = v.removed := by
  unfold mitEinheit
  split
  · split <;> exact ⟨rfl, rfl⟩
  · exact ⟨rfl, rfl⟩

theorem mitStatus_columns (quelle : Quelle κ ο ρ) (jetzt : Zeit) (unit : Unit κ) (v : IncidentVehicle) :
    (mitStatus quelle jetzt unit v).vehicleMasterId = v.vehicleMasterId ∧ (mitStatus quelle jetzt unit v).removed = v.removed ∧
      (mitStatus quelle jetzt unit v).lisOperationUnitId = v.lisOperationUnitId := by
  unfold mitStatus
  split
  · split <;> exact ⟨rfl, rfl, rfl⟩
  · exact ⟨rfl, rfl, rfl⟩

theorem vonMaster_aktualisiert (other : Nat) (v : IncidentVehicle) :
    vonMaster other (aktualisiert quelle jetzt unit v) = vonMaster other v := by
  obtain ⟨master, removed, -⟩ := mitStatus_columns quelle jetzt unit (mitEinheit unit v)
  obtain ⟨master', removed'⟩ := mitEinheit_columns unit v
  unfold vonMaster aktualisiert
  rw [master, removed, master', removed']

def EinheitErledigt (unit : Unit κ) (v : IncidentVehicle) : Prop := ∀ id, orNone unit.id = some id → v.lisOperationUnitId = some id

def StatusErledigt (quelle : Quelle κ ο ρ) (jetzt : Zeit) (unit : Unit κ) (v : IncidentVehicle) : Prop :=
  ∀ status, mapUnitStatus quelle unit.statusLabel = some status →
    v.unitStatus = status ∨ lokalStatusGeschuetzt jetzt v = true

variable {v : IncidentVehicle}

theorem mitEinheit_of_erledigt (erledigt : EinheitErledigt unit v) : mitEinheit unit v = v := by
  unfold mitEinheit
  split
  · next id isId => exact if_neg (not_not.mpr (erledigt id isId))
  · rfl

theorem mitStatus_of_erledigt (erledigt : StatusErledigt quelle jetzt unit v) :
    mitStatus quelle jetzt unit v = v := by
  unfold mitStatus
  split
  · next status isStatus =>
    refine if_neg fun changes => ?_
    rcases erledigt status isStatus with same | kept
    · exact changes.1 same
    · rw [kept] at changes
      cases changes.2
  · rfl

theorem aktualisiert_erledigt (quelle : Quelle κ ο ρ) (jetzt : Zeit) (unit : Unit κ) (v : IncidentVehicle) :
    EinheitErledigt unit (aktualisiert quelle jetzt unit v) ∧ StatusErledigt quelle jetzt unit (aktualisiert quelle jetzt unit v) := by
  constructor
  · intro id isId
    have written : (mitEinheit unit v).lisOperationUnitId = some id := by
      unfold mitEinheit
      rw [isId]
      dsimp only
      split
      · rfl
      · next same => exact not_not.mp same
    exact (mitStatus_columns quelle jetzt unit (mitEinheit unit v)).2.2.trans written
  · intro status isStatus
    unfold aktualisiert mitStatus
    rw [isStatus]
    dsimp only
    split
    · exact Or.inl rfl
    · next kept =>
      by_cases same : (mitEinheit unit v).unitStatus = status
      · exact Or.inl same
      · exact Or.inr (Bool.eq_true_of_not_eq_false fun free => kept ⟨same, free⟩)

theorem aufBoard_modify {f : IncidentVehicle → IncidentVehicle} {keeps : ∀ row, (f row).id = row.id}
    (same : ∀ other row, vonMaster other (f row) = vonMaster other row) (found : aufBoard vehicles masterId = some v) (id : Nat) :
    aufBoard (vehicles.modify id f keeps) masterId = some (if v.id = id then f v else v) := by
  have rows : (vehicles.modify id f keeps).rows = vehicles.rows.map fun row => if row.id = id then f row else row := rfl
  have samePred : ∀ row, vonMaster masterId (if row.id = id then f row else row) = vonMaster masterId row := by
    intro row
    split
    · exact same masterId row
    · rfl
  rw [aufBoard_eq, rows]
  refine find?_map_of_imp (fun x _ matched => ?_) found ?_
  · rwa [samePred] at matched
  · rw [samePred]
    exact List.find?_some found

theorem aufBoard_modify_none {f : IncidentVehicle → IncidentVehicle} {keeps : ∀ row, (f row).id = row.id}
    (same : ∀ other row, vonMaster other (f row) = vonMaster other row) (missing : aufBoard vehicles masterId = none) (id : Nat) :
    aufBoard (vehicles.modify id f keeps) masterId = none := by
  have rows : (vehicles.modify id f keeps).rows = vehicles.rows.map fun row => if row.id = id then f row else row := rfl
  rw [aufBoard_eq, rows]
  refine find?_map_none (fun x _ matched => ?_) missing
  split at matched
  · rwa [same] at matched
  · exact matched

theorem schreibeFahrzeug_erledigt (written : schreibeFahrzeug quelle jetzt activeCol vehicles masterId unit = some neu) :
    ∃ v, aufBoard neu masterId = some v ∧ EinheitErledigt unit v ∧ StatusErledigt quelle jetzt unit v := by
  unfold schreibeFahrzeug at written
  split at written
  · next vehicle found =>
    cases written
    refine ⟨aktualisiert quelle jetzt unit vehicle, ?_, aktualisiert_erledigt quelle jetzt unit vehicle⟩
    rw [aufBoard_modify (fun other row => vonMaster_aktualisiert other row) found, if_pos rfl]
  · next missing =>
    split at written
    · next status col isStatus =>
      cases written
      refine ⟨neuesFahrzeug unit masterId col (nextDisplayOrder vehicles col) status (vehicles.last + 1), ?_, ?_, ?_⟩
      · have matched : vonMaster masterId (neuesFahrzeug unit masterId col (nextDisplayOrder vehicles col) status (vehicles.last + 1)) =
            true := by simp [vonMaster, neuesFahrzeug]
        exact find?_append_new missing matched
      · intro id isId
        exact (Option.filter_eq_some_iff.mp isId).1
      · intro other isOther
        rw [isStatus] at isOther
        exact Or.inl (Option.some.inj isOther)
    · cases written

theorem schreibeFahrzeug_bleibt {other : Nat} (elsewhere : masterId ≠ other)
    (written : schreibeFahrzeug quelle jetzt activeCol vehicles other unit = some neu) :
    aufBoard neu masterId = aufBoard vehicles masterId := by
  unfold schreibeFahrzeug at written
  split at written
  · next vehicle found =>
    cases written
    cases mine : aufBoard vehicles masterId with
    | none => exact aufBoard_modify_none (fun other row => vonMaster_aktualisiert other row) mine vehicle.id
    | some v =>
      have isMine : v.vehicleMasterId = masterId := by
        have matched := List.find?_some mine
        simp only [Bool.and_eq_true, beq_iff_eq] at matched
        exact matched.1
      have isOther : vehicle.vehicleMasterId = other := by
        have matched := List.find?_some found
        simp only [Bool.and_eq_true, beq_iff_eq] at matched
        exact matched.1
      have differs : v.id ≠ vehicle.id := by
        intro same
        have first := Keyed.get?_of_mem (List.mem_of_find?_eq_some mine)
        have second := Keyed.get?_of_mem (List.mem_of_find?_eq_some found)
        rw [same, second] at first
        cases first
        exact elsewhere (isMine.symm.trans isOther)
      rw [aufBoard_modify (fun other row => vonMaster_aktualisiert other row) mine, if_neg differs]
  · split at written
    · next status col _ =>
      cases written
      have unmatched : vonMaster masterId (neuesFahrzeug unit other col (nextDisplayOrder vehicles col) status (vehicles.last + 1)) =
          false := by
        simp [vonMaster, neuesFahrzeug, elsewhere.symm]
      cases mine : aufBoard vehicles masterId with
      | none => exact find?_append_none mine unmatched
      | some v =>
        have mine' : vehicles.rows.find? (vonMaster masterId) = some v := mine
        have rows : (vehicles.insert (neuesFahrzeug unit other col (nextDisplayOrder vehicles col) status) fun _ => rfl).rows =
            vehicles.rows ++ [neuesFahrzeug unit other col (nextDisplayOrder vehicles col) status (vehicles.last + 1)] := rfl
        rw [aufBoard_eq, rows, List.find?_append, mine', Option.some_or]
    · cases written

end Fahrzeuge

section Positionen

variable [DecidableEq ρ] {positions : List (VehiclePosition ο)} {lageId : Option Nat} {masterId : Nat} {unit : Unit κ}
  {jetzt : Zeit}

/-- The last position is the one that LIS reports, or one that has been set by
hand. -/
def PositionErledigt (quelle : Quelle κ ο ρ) (positions : List (VehiclePosition ο)) (lageId : Option Nat) (masterId : Nat)
    (unit : Unit κ) : Prop :=
  ∀ ort, unit.location.bind quelle.coords = some ort → ∃ letzte, letztePosition positions masterId lageId = some letzte ∧
    (lageId ≠ none ∧ letzte.source = "manual" ∨ letzte.source = "lis" ∧ quelle.rund letzte.ort = quelle.rund ort)

omit [DecidableEq ρ] in
theorem letztePosition_append (p : VehiclePosition ο) : letztePosition (positions ++ [p]) masterId lageId =
    if p.vehicleId = masterId ∧ p.lageId = lageId then spaetere (letztePosition positions masterId lageId) p
    else letztePosition positions masterId lageId := by
  unfold letztePosition
  rw [List.filter_append, List.foldl_append]
  split
  · next same =>
    obtain ⟨vehicle, lage⟩ := same
    simp [vehicle, lage]
  · next differs =>
    have unmatched : (p.vehicleId == masterId && p.lageId == lageId) = false := by
      refine Bool.eq_false_of_not_eq_true fun matched => differs ?_
      simpa using matched
    rw [List.filter_cons_of_neg (by rw [unmatched]; exact Bool.false_ne_true), List.filter_nil, List.foldl_nil]

omit [DecidableEq ρ] in
theorem letztePosition_mem {p : VehiclePosition ο} (last : letztePosition positions masterId lageId = some p) : p ∈ positions := by
  have fold : ∀ (list : List (VehiclePosition ο)) (best : Option (VehiclePosition ο)),
      list.foldl spaetere best = some p → p ∈ list ∨ best = some p := by
    intro list
    induction list with
    | nil => exact fun best same => Or.inr same
    | cons first rest ih =>
      intro best same
      rcases ih _ same with member | isFirst
      · exact Or.inl (List.mem_cons_of_mem _ member)
      · unfold spaetere at isFirst
        split at isFirst
        · split at isFirst
          · exact Or.inl (Option.some.inj isFirst ▸ List.mem_cons_self ..)
          · exact Or.inr isFirst
        · exact Or.inl (Option.some.inj isFirst ▸ List.mem_cons_self ..)
  rcases fold _ _ last with member | none'
  · exact List.mem_of_mem_filter member
  · cases none'

theorem syncVehicleLocation_rahmen (quelle : Quelle κ ο ρ) (jetzt : Zeit) (lageId : Option Nat) (positions : List (VehiclePosition ο))
    (masterId : Nat) (unit : Unit κ) : syncVehicleLocation quelle jetzt lageId positions masterId unit = positions ∨
      ∃ p, syncVehicleLocation quelle jetzt lageId positions masterId unit = positions ++ [p] ∧ p.vehicleId = masterId ∧
        p.receivedAt = jetzt := by
  unfold syncVehicleLocation
  split
  · exact Or.inl rfl
  · dsimp only
    split
    · exact Or.inr ⟨_, rfl, rfl, rfl⟩
    · split
      · exact Or.inl rfl
      · split
        · exact Or.inl rfl
        · exact Or.inr ⟨_, rfl, rfl, rfl⟩

theorem syncVehicleLocation_idle (erledigt : PositionErledigt quelle positions lageId masterId unit) (jetzt : Zeit) :
    syncVehicleLocation quelle jetzt lageId positions masterId unit = positions := by
  unfold syncVehicleLocation
  split
  · rfl
  · next ort isOrt =>
    obtain ⟨letzte, isLast, manual | same⟩ := erledigt ort isOrt
    · rw [isLast]
      exact if_pos manual
    · rw [isLast]
      dsimp only
      by_cases manual : lageId ≠ none ∧ letzte.source = "manual"
      · exact if_pos manual
      · rw [if_neg manual, if_pos same]

theorem syncVehicleLocation_erledigt (vergangen : ∀ p ∈ positions, p.receivedAt ≤ jetzt) :
    PositionErledigt quelle (syncVehicleLocation quelle jetzt lageId positions masterId unit) lageId masterId unit := by
  intro ort isOrt
  have written : letztePosition (positions ++ [{ vehicleId := masterId, lageId, ort, source := "lis", receivedAt := jetzt }]) masterId
      lageId = some { vehicleId := masterId, lageId, ort, source := "lis", receivedAt := jetzt } := by
    rw [letztePosition_append, if_pos ⟨rfl, rfl⟩]
    unfold spaetere
    split
    · next last isLast => exact if_pos (vergangen last (letztePosition_mem isLast))
    · rfl
  unfold syncVehicleLocation
  rw [isOrt]
  dsimp only
  split
  · exact ⟨_, written, Or.inr ⟨rfl, rfl⟩⟩
  · next letzte isLast =>
    split
    · next manual => exact ⟨letzte, isLast, Or.inl manual⟩
    · split
      · next same => exact ⟨letzte, isLast, Or.inr same⟩
      · exact ⟨_, written, Or.inr ⟨rfl, rfl⟩⟩

theorem PositionErledigt.bleibt {other : Nat} {otherUnit : Unit κ} (erledigt : PositionErledigt quelle positions lageId masterId unit)
    (elsewhere : masterId ≠ other) :
    PositionErledigt quelle (syncVehicleLocation quelle jetzt lageId positions other otherUnit) lageId masterId unit := by
  rcases syncVehicleLocation_rahmen quelle jetzt lageId positions other otherUnit with nothing | ⟨p, added, isOther, -⟩
  · rw [nothing]
    exact erledigt
  · rw [added]
    intro ort isOrt
    rw [letztePosition_append, if_neg fun same => elsewhere (same.1.symm.trans isOther)]
    exact erledigt ort isOrt

end Positionen

section Einheiten

variable [DecidableEq ρ] {stand : Stand ο} {unit : Unit κ} {jetzt spaeter : Zeit}

/-- Nothing is left to do for a unit that means a vehicle, or none; the vehicle
has a property. -/
def UnitErledigt (quelle : Quelle κ ο ρ) (S : IncidentVehicle → Prop) (stand : Stand ο) (unit : Unit κ) : Option Nat → Prop
  | none => findeMaster quelle stand.masters unit = none
  | some masterId => findeMaster quelle stand.masters unit = some (stand.masters, masterId) ∧
    ((∃ v, aufBoard stand.vehicles masterId = some v ∧ EinheitErledigt unit v ∧ S v ∧
        PositionErledigt quelle stand.positions stand.lageId masterId unit) ∨
      aufBoard stand.vehicles masterId = none ∧ (mapUnitStatus quelle unit.statusLabel = none ∨ stand.activeCol = none))

def gemeint (quelle : Quelle κ ο ρ) (masters : Keyed VehicleMaster.id) (unit : Unit κ) : Option Nat :=
  (findeMaster quelle masters unit).map Prod.snd

omit [DecidableEq ρ] in
theorem schreibeFahrzeug_none {activeCol : Option Nat} {vehicles : Keyed IncidentVehicle.id} {masterId : Nat} :
    schreibeFahrzeug quelle jetzt activeCol vehicles masterId unit = none ↔
      aufBoard vehicles masterId = none ∧ (mapUnitStatus quelle unit.statusLabel = none ∨ activeCol = none) := by
  unfold schreibeFahrzeug
  cases aufBoard vehicles masterId with
  | some v => simp
  | none =>
    cases mapUnitStatus quelle unit.statusLabel with
    | none => simp
    | some status => cases activeCol <;> simp

theorem syncUnit_erledigt (passt : unit.Passt quelle) (vergangen : ∀ p ∈ stand.positions, p.receivedAt ≤ jetzt) :
    UnitErledigt quelle (StatusErledigt quelle jetzt unit) (syncUnit quelle jetzt stand unit) unit (gemeint quelle stand.masters unit) := by
  unfold syncUnit gemeint
  split
  · next missing =>
    rw [missing]
    exact missing
  next masters masterId found =>
  have again := findeMaster_erneut passt found
  rw [found]
  split
  · next absent =>
    exact ⟨again, Or.inr (schreibeFahrzeug_none.mp absent)⟩
  · next vehicles written =>
    obtain ⟨v, onBoard, einheit, status⟩ := schreibeFahrzeug_erledigt written
    exact ⟨again, Or.inl ⟨v, onBoard, einheit, status, syncVehicleLocation_erledigt vergangen⟩⟩

theorem syncUnit_vergangen (vergangen : ∀ p ∈ stand.positions, p.receivedAt ≤ jetzt) :
    ∀ p ∈ (syncUnit quelle jetzt stand unit).positions, p.receivedAt ≤ jetzt := by
  unfold syncUnit
  split
  · exact vergangen
  · next masters masterId _ =>
    split
    · exact vergangen
    · intro p member
      rcases syncVehicleLocation_rahmen quelle jetzt stand.lageId stand.positions masterId unit with nothing | ⟨new, added, -, isNow⟩
      · rw [nothing] at member
        exact vergangen p member
      · rw [added] at member
        rcases List.mem_append.mp member with old | isNew
        · exact vergangen p old
        · rw [List.mem_singleton.mp isNew, isNow]

theorem syncUnit_rahmen (quelle : Quelle κ ο ρ) (jetzt : Zeit) (stand : Stand ο) (unit : Unit κ) :
    ∃ masters vehicles positions, syncUnit quelle jetzt stand unit = { stand with masters, vehicles, positions } := by
  unfold syncUnit
  split
  · exact ⟨_, _, _, rfl⟩
  · split <;> exact ⟨_, _, _, rfl⟩

variable {S : IncidentVehicle → Prop} {masterId : Option Nat}

theorem UnitErledigt.bleibt {other : Unit κ}
    (erledigt : UnitErledigt quelle S stand unit masterId)
    (refs : ∀ ref ∈ unit.referenz, ∀ ref' ∈ other.referenz, clip 60 ref ≠ clip 60 ref')
    (verschieden : ∀ id ∈ masterId, id ∉ gemeint quelle stand.masters other) :
    UnitErledigt quelle S (syncUnit quelle jetzt stand other) unit masterId := by
  unfold syncUnit
  split
  · exact erledigt
  next masters otherId found =>
  obtain ⟨bleibtFort, bleibt⟩ := findeMaster_bleibt found refs
  cases masterId with
  | none =>
    have missing : findeMaster quelle masters unit = none := bleibtFort erledigt
    split <;> exact missing
  | some masterId =>
    obtain ⟨here, onBoard⟩ := erledigt
    have elsewhere : masterId ≠ otherId := by
      rintro rfl
      refine verschieden masterId rfl ?_
      rw [gemeint, found]
      rfl
    have there := bleibt masterId here elsewhere
    split
    · exact ⟨there, onBoard⟩
    · next vehicles written =>
      have same := schreibeFahrzeug_bleibt elsewhere written
      refine ⟨there, ?_⟩
      rcases onBoard with ⟨v, isV, einheit, status, position⟩ | ⟨away, why⟩
      · exact Or.inl ⟨v, same.trans isV, einheit, status, position.bleibt elsewhere⟩
      · exact Or.inr ⟨same.trans away, why⟩

def gemeinte (quelle : Quelle κ ο ρ) : Keyed VehicleMaster.id → List (Unit κ) → List Nat
  | _, [] => []
  | masters, unit :: rest =>
    match findeMaster quelle masters unit with
    | none => gemeinte quelle masters rest
    | some (neu, masterId) => masterId :: gemeinte quelle neu rest

def referenzen (units : List (Unit κ)) : List String := (units.filterMap Unit.referenz).map (clip 60)

def Unterschieden (quelle : Quelle κ ο ρ) (masters : Keyed VehicleMaster.id) (units : List (Unit κ)) : Prop :=
  (gemeinte quelle masters units).Nodup ∧ (referenzen units).Nodup

instance (masters : Keyed VehicleMaster.id) (units : List (Unit κ)) : Decidable (Unterschieden quelle masters units) := by
  unfold Unterschieden
  infer_instance

theorem syncUnit_masters (quelle : Quelle κ ο ρ) (jetzt : Zeit) (stand : Stand ο) (unit : Unit κ) :
    (syncUnit quelle jetzt stand unit).masters = ((findeMaster quelle stand.masters unit).map Prod.fst).getD stand.masters := by
  unfold syncUnit
  split
  · next missing => rw [missing]; rfl
  · next masters masterId found =>
    rw [found]
    split <;> rfl

theorem gemeinte_cons (quelle : Quelle κ ο ρ) (jetzt : Zeit) (stand : Stand ο) (unit : Unit κ) (rest : List (Unit κ)) :
    gemeinte quelle stand.masters (unit :: rest) =
      (gemeint quelle stand.masters unit).toList ++ gemeinte quelle (syncUnit quelle jetzt stand unit).masters rest := by
  rw [syncUnit_masters, gemeint, gemeinte]
  split
  · next missing => rw [missing]; rfl
  · next neu masterId found => rw [found]; rfl

theorem referenzen_cons (unit : Unit κ) (rest : List (Unit κ)) :
    referenzen (unit :: rest) = (unit.referenz.map (clip 60)).toList ++ referenzen rest := by
  unfold referenzen
  cases isRef : unit.referenz with
  | none => rw [List.filterMap_cons_none isRef]; rfl
  | some ref => rw [List.filterMap_cons_some isRef]; rfl

theorem UnitErledigt.bleibt_run {rest : List (Unit κ)}
    (erledigt : UnitErledigt quelle S stand unit masterId) (refs : ∀ ref ∈ unit.referenz, clip 60 ref ∉ referenzen rest)
    (verschieden : ∀ id ∈ masterId, id ∉ gemeinte quelle stand.masters rest) :
    UnitErledigt quelle S (syncVehicleStatus quelle jetzt stand rest) unit masterId := by
  unfold syncVehicleStatus
  induction rest generalizing stand with
  | nil => exact erledigt
  | cons other rest ih =>
    rw [gemeinte_cons quelle jetzt] at verschieden
    rw [referenzen_cons] at refs
    refine ih (erledigt.bleibt (fun ref isRef ref' isRef' same => ?_) fun id isId mean => ?_) (fun ref isRef later => ?_)
      fun id isId later => ?_
    · refine refs ref isRef (List.mem_append_left _ (Option.mem_toList.mpr ?_))
      rw [Option.mem_def.mp isRef', same]
      rfl
    · exact verschieden id isId (List.mem_append_left _ (Option.mem_toList.mpr mean))
    · exact refs ref isRef (List.mem_append_right _ later)
    · exact verschieden id isId (List.mem_append_right _ later)

theorem syncVehicleStatus_erledigt {units : List (Unit κ)} (unterschieden : Unterschieden quelle stand.masters units)
    (passen : ∀ unit ∈ units, unit.Passt quelle) (vergangen : ∀ p ∈ stand.positions, p.receivedAt ≤ jetzt) :
    ∀ unit ∈ units, ∃ masterId,
      UnitErledigt quelle (StatusErledigt quelle jetzt unit) (syncVehicleStatus quelle jetzt stand units) unit masterId := by
  induction units generalizing stand with
  | nil => simp
  | cons first rest ih =>
    obtain ⟨vehicles, refs⟩ := unterschieden
    rw [gemeinte_cons quelle jetzt, List.nodup_append] at vehicles
    rw [referenzen_cons, List.nodup_append] at refs
    have settled := syncUnit_erledigt (passen first (List.mem_cons_self ..)) vergangen
    intro unit member
    rcases List.mem_cons.mp member with rfl | later
    · refine ⟨_, settled.bleibt_run (fun ref isRef again => ?_) fun id isId again => ?_⟩
      · have isStored : clip 60 ref ∈ (unit.referenz.map (clip 60)).toList := by
          rw [Option.mem_def.mp isRef]
          exact List.mem_singleton_self _
        exact refs.2.2 _ isStored _ again rfl
      · exact vehicles.2.2 id (Option.mem_toList.mpr isId) id again rfl
    · exact ih ⟨vehicles.2.1, refs.2.1⟩ (fun u isUnit => passen u (List.mem_cons_of_mem _ isUnit)) (syncUnit_vergangen vergangen)
        unit later

def IncidentVehicle.ohneStatus (v : IncidentVehicle) : IncidentVehicle :=
  { v with unitStatus := "", lisPushedStatus := none, lisPushedAt := none }

theorem ohneStatus_id (v : IncidentVehicle) : v.ohneStatus.id = v.id := rfl

def BisAufStatus (a b : Keyed IncidentVehicle.id) : Prop :=
  a.map IncidentVehicle.ohneStatus ohneStatus_id = b.map IncidentVehicle.ohneStatus ohneStatus_id

omit [DecidableEq ρ] in
theorem mitStatus_ohneStatus (v : IncidentVehicle) : (mitStatus quelle jetzt unit v).ohneStatus = v.ohneStatus := by
  unfold mitStatus
  split
  · split <;> rfl
  · rfl

theorem aufBoard_ohneStatus (vehicles : Keyed IncidentVehicle.id) (masterId : Nat) :
    aufBoard (vehicles.map IncidentVehicle.ohneStatus ohneStatus_id) masterId =
      (aufBoard vehicles masterId).map IncidentVehicle.ohneStatus := by
  unfold aufBoard Keyed.map
  rw [List.find?_map]
  rfl

omit [DecidableEq ρ] in
theorem UnitErledigt.of_bisAufStatus {vehicles : Keyed IncidentVehicle.id}
    (erledigt : UnitErledigt quelle (fun _ => True) stand unit masterId) (gleich : BisAufStatus vehicles stand.vehicles) :
    UnitErledigt quelle (fun _ => True) { stand with vehicles } unit masterId := by
  cases masterId with
  | none => exact erledigt
  | some masterId =>
    obtain ⟨found, onBoard⟩ := erledigt
    have same : (aufBoard vehicles masterId).map IncidentVehicle.ohneStatus =
        (aufBoard stand.vehicles masterId).map IncidentVehicle.ohneStatus := by
      rw [← aufBoard_ohneStatus, gleich, aufBoard_ohneStatus]
    refine ⟨found, ?_⟩
    rcases onBoard with ⟨v, isV, einheit, -, position⟩ | ⟨away, why⟩
    · rw [isV, Option.map_some] at same
      obtain ⟨v', isV', equal⟩ := Option.map_eq_some_iff.mp same
      have unitId : v'.ohneStatus.lisOperationUnitId = v.ohneStatus.lisOperationUnitId :=
        congrArg IncidentVehicle.lisOperationUnitId equal
      exact Or.inl ⟨v', isV', fun id isId => unitId.trans (einheit id isId), trivial, position⟩
    · rw [away, Option.map_none] at same
      exact Or.inr ⟨Option.map_eq_none_iff.mp same, why⟩

theorem UnitErledigt.ruht (erledigt : UnitErledigt quelle S stand unit masterId)
    (spaeter : Zeit) : ∃ vehicles, syncUnit quelle spaeter stand unit = { stand with vehicles } ∧ BisAufStatus vehicles stand.vehicles ∧
      ((∀ v, S v → StatusErledigt quelle spaeter unit v) → vehicles = stand.vehicles) := by
  unfold syncUnit
  cases masterId with
  | none =>
    have missing : findeMaster quelle stand.masters unit = none := erledigt
    rw [missing]
    exact ⟨stand.vehicles, rfl, rfl, fun _ => rfl⟩
  | some masterId =>
    obtain ⟨found, onBoard⟩ := erledigt
    rw [found]
    dsimp only
    rcases onBoard with ⟨v, isV, einheit, status, position⟩ | absent
    · have written : schreibeFahrzeug quelle spaeter stand.activeCol stand.vehicles masterId unit =
          some (stand.vehicles.modify v.id (aktualisiert quelle spaeter unit) (aktualisiert_id quelle spaeter unit)) := by
        unfold schreibeFahrzeug
        rw [isV]
      have stored := Keyed.get?_of_mem (List.mem_of_find?_eq_some isV)
      have onlyStatus : aktualisiert quelle spaeter unit v = mitStatus quelle spaeter unit v := by
        rw [aktualisiert, mitEinheit_of_erledigt einheit]
      rw [written]
      dsimp only
      rw [syncVehicleLocation_idle position]
      refine ⟨_, rfl, ?_, fun settles => ?_⟩
      · refine Keyed.map_modify stored ?_
        rw [onlyStatus, mitStatus_ohneStatus]
      · exact Keyed.modify_of_self stored (onlyStatus.trans (mitStatus_of_erledigt (settles v status)))
    · rw [schreibeFahrzeug_none.mpr absent]
      exact ⟨stand.vehicles, rfl, rfl, fun _ => rfl⟩

theorem syncVehicleStatus_ruht {units : List (Unit κ)} (spaeter : Zeit)
    (erledigt : ∀ unit ∈ units, ∃ masterId, UnitErledigt quelle (fun _ => True) stand unit masterId) :
    ∃ vehicles, syncVehicleStatus quelle spaeter stand units = { stand with vehicles } ∧ BisAufStatus vehicles stand.vehicles := by
  unfold syncVehicleStatus
  induction units generalizing stand with
  | nil => exact ⟨stand.vehicles, rfl, rfl⟩
  | cons first rest ih =>
    obtain ⟨masterId, settled⟩ := erledigt first (List.mem_cons_self ..)
    obtain ⟨vehicles, written, gleich, -⟩ := settled.ruht spaeter
    have still : ∀ unit ∈ rest, ∃ masterId, UnitErledigt quelle (fun _ => True) { stand with vehicles } unit masterId := by
      intro unit member
      obtain ⟨id, before⟩ := erledigt unit (List.mem_cons_of_mem _ member)
      exact ⟨id, before.of_bisAufStatus gleich⟩
    obtain ⟨vehicles', later, gleich'⟩ := ih still
    refine ⟨vehicles', ?_, gleich'.trans gleich⟩
    rw [List.foldl_cons, written, later]

omit [DecidableEq ρ] in
theorem UnitErledigt.mono {T : IncidentVehicle → Prop} (erledigt : UnitErledigt quelle S stand unit masterId)
    (implies : ∀ v ∈ stand.vehicles.rows, S v → T v) : UnitErledigt quelle T stand unit masterId := by
  cases masterId with
  | none => exact erledigt
  | some masterId =>
    refine ⟨erledigt.1, erledigt.2.imp_left ?_⟩
    rintro ⟨v, isV, einheit, held, position⟩
    exact ⟨v, isV, einheit, implies v (List.mem_of_find?_eq_some isV) held, position⟩

theorem syncVehicleStatus_idle {units : List (Unit κ)}
    (erledigt : ∀ unit ∈ units, ∃ masterId, UnitErledigt quelle (StatusErledigt quelle spaeter unit) stand unit masterId) :
    syncVehicleStatus quelle spaeter stand units = stand := by
  refine @run_idle _ _ (syncUnit quelle spaeter) (fun stand unit => syncUnit quelle spaeter stand unit = stand)
    (fun _ _ idle => idle) stand units fun unit member => ?_
  obtain ⟨masterId, settled⟩ := erledigt unit member
  obtain ⟨vehicles, written, -, same⟩ := settled.ruht spaeter
  rw [written, same fun _ held => held]

theorem syncVehicleStatus_rahmen (quelle : Quelle κ ο ρ) (jetzt : Zeit) (stand : Stand ο) (units : List (Unit κ)) :
    ∃ masters vehicles positions, syncVehicleStatus quelle jetzt stand units = { stand with masters, vehicles, positions } := by
  unfold syncVehicleStatus
  induction units generalizing stand with
  | nil => exact ⟨_, _, _, rfl⟩
  | cons unit rest ih =>
    obtain ⟨masters, vehicles, positions, first⟩ := syncUnit_rahmen quelle jetzt stand unit
    obtain ⟨masters', vehicles', positions', later⟩ := ih (syncUnit quelle jetzt stand unit)
    refine ⟨masters', vehicles', positions', ?_⟩
    rw [List.foldl_cons, later, first]

end Einheiten

end Einsatzcockpit.Lis
