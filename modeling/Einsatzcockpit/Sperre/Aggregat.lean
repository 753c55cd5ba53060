import Einsatzcockpit.Sperre.Records

namespace Einsatzcockpit.Sperre

open Raising Relational Transition

variable {κ ι β : Type} {geo : Geo κ ι β}

def StreetGut (street : Option String) : Prop := ∀ text ∈ street, text ≠ "" ∧ text.length ≤ 200

structure RoadClosure.Aggregiert (geo : Geo κ ι β) (closure : RoadClosure κ β) : Prop where
  street : closure.street = (aggregate geo closure.sections).street
  geometry : closure.geometryGeojson = (aggregate geo closure.sections).geometryGeojson
  status : closure.geometryStatus = (aggregate geo closure.sections).geometryStatus
  quality : closure.geometryQuality = (aggregate geo closure.sections).geometryQuality
  bbox : closure.bbox = (aggregate geo closure.sections).geometryGeojson.map geo.bbox
  positions : closure.sections.map (·.position) = List.range closure.sections.length
  missing : closure.geometryStatus = .missing ↔ closure.geometryGeojson = none

structure RoadClosure.Stimmt (geo : Geo κ ι β) (closure : RoadClosure κ β) : Prop where
  aggregiert : closure.Aggregiert geo
  strassen : ∀ s ∈ closure.sections, StreetGut s.street

section Aggregate

theorem sortedSections_of_positions {sections : List (RoadClosureSection κ)}
    (positions : sections.map (·.position) = List.range sections.length) : sortedSections sections = sections := by
  have sorted : (sections.map (·.position)).Pairwise (· ≤ ·) := by
    rw [positions]
    exact List.pairwise_le_range
  exact (List.pairwise_map.mp sorted).insertionSort_eq

theorem aggregate_single (s : RoadClosureSection κ) (gut : StreetGut s.street) :
    (aggregate geo [s]).street = s.street ∧ (aggregate geo [s]).geometryGeojson = s.geometryGeojson ∧
      (aggregate geo [s]).geometryQuality = s.geometryQuality ∧
      (aggregate geo [s]).geometryStatus =
        if s.geometryGeojson = none then .missing else if s.geometryStatus = .ok then .ok else .needsReview := by
  have sorted : sortedSections [s] = [s] := rfl
  refine ⟨?_, ?_, ?_, ?_⟩
  · simp only [aggregate, sorted]
    cases isStreet : s.street with
    | none => simp [isStreet, aggregateStreet, String.intercalate]
    | some street =>
      obtain ⟨nonempty, length⟩ := gut street isStreet
      have same : String.intercalate ", " [street] = street := rfl
      have short : ¬ 200 < street.length := Nat.not_lt.mpr length
      simp [isStreet, aggregateStreet, same, short, nonempty, List.eraseDups_cons]
  · simp only [aggregate, sorted]
    cases isGeom : s.geometryGeojson with
    | none => simp [isGeom, mergeGeometries]
    | some geom => simp [isGeom, mergeGeometries]
  · simp only [aggregate, sorted]
    cases isQuality : s.geometryQuality with
    | none => simp [isQuality, minQuality]
    | some quality => simp [isQuality, minQuality]
  · simp only [aggregate, sorted]
    cases isGeom : s.geometryGeojson with
    | none => simp [isGeom]
    | some geom => simp [isGeom]

theorem aggregate_missing (sections : List (RoadClosureSection κ)) :
    (aggregate geo sections).geometryStatus = .missing ↔ (aggregate geo sections).geometryGeojson = none := by
  have merged : ∀ geoms : List (Geometrie κ), mergeGeometries geo geoms = none ↔ geoms = [] := by
    intro geoms
    match geoms with
    | [] => simp [mergeGeometries]
    | [_] => simp [mergeGeometries]
    | _ :: _ :: _ => simp [mergeGeometries]
  simp only [aggregate, merged]
  split
  · next leer => simp [leer]
  · next voll =>
    split <;> simp [voll]

end Aggregate

section Abschnitte

variable {closure : RoadClosure κ β}

theorem stimmt_aggregateSections (positions : closure.sections.map (·.position) = List.range closure.sections.length)
    (strassen : ∀ s ∈ closure.sections, StreetGut s.street) : (aggregateSections geo closure).Stimmt geo :=
  ⟨⟨rfl, rfl, rfl, rfl, rfl, positions, aggregate_missing closure.sections⟩, strassen⟩

theorem stimmt_einzeln {s : RoadClosureSection κ} (single : closure.sections = [s])
    (data : s.toSectionData = closure.toSectionData) (position : s.position = 0) (gut : StreetGut closure.street)
    (bbox : closure.bbox = closure.geometryGeojson.map geo.bbox)
    (missing : closure.geometryStatus = .missing ↔ closure.geometryGeojson = none) : closure.Stimmt geo := by
  have gut' : StreetGut s.street := by
    rw [data]
    exact gut
  obtain ⟨street, geometry, quality, status⟩ := @aggregate_single _ _ _ geo s gut'
  rw [data] at street geometry quality status
  refine ⟨⟨?_, ?_, ?_, ?_, ?_, ?_, missing⟩, fun s' member => ?_⟩
  · rw [single, street]
  · rw [single, geometry]
  · rw [single, status]
    split
    · next leer => exact missing.mpr leer
    · next voll =>
      have known : closure.geometryStatus ≠ .missing := fun is => voll (missing.mp is)
      split
      · next isOk => exact isOk
      · next notOk =>
        cases isStatus : closure.geometryStatus with
        | ok => exact absurd isStatus notOk
        | needsReview => rfl
        | missing => exact absurd isStatus known
  · rw [single, quality]
  · rw [single, geometry, bbox]
  · rw [single, List.map_singleton, position]
    rfl
  · rw [single, List.mem_singleton] at member
    rw [member]
    exact gut'

theorem nummeriert_positions (values : List (SectionData κ)) :
    (nummeriert values).map (·.position) = List.range (nummeriert values).length := by
  unfold nummeriert
  rw [List.length_mapIdx]
  refine List.ext_getElem (by simp) fun n _ _ => by simp

theorem mem_nummeriert {values : List (SectionData κ)} {s : RoadClosureSection κ} (member : s ∈ nummeriert values) :
    s.toSectionData ∈ values := by
  unfold nummeriert at member
  obtain ⟨i, bound, rfl⟩ := List.mem_mapIdx.mp member
  exact List.getElem_mem bound

/-- `_sync_single_section` makes the aggregate right for one section at most. -/
theorem syncSingleSection_stimmt (einer : closure.sections.length ≤ 1)
    (positions : closure.sections.map (·.position) = List.range closure.sections.length)
    (etwas : closure.sections = [] → closure.street ≠ none ∨ closure.geometryGeojson ≠ none)
    (gut : StreetGut closure.street) (bbox : closure.bbox = closure.geometryGeojson.map geo.bbox)
    (missing : closure.geometryStatus = .missing ↔ closure.geometryGeojson = none) :
    (syncSingleSection closure).Stimmt geo := by
  unfold syncSingleSection
  match isSections : closure.sections with
  | [] =>
    dsimp only
    rw [if_pos (etwas isSections)]
    exact stimmt_einzeln rfl rfl rfl gut bbox missing
  | [single] =>
    rw [isSections] at positions
    have first : single.position = 0 := (List.cons.inj positions).1
    exact stimmt_einzeln rfl rfl first gut bbox missing
  | _ :: _ :: _ =>
    rw [isSections] at einer
    simp at einer

end Abschnitte

section Validieren

variable {data : Daten ι} {existing : Option (RoadClosure κ β)} {geprueft : Geprueft κ}

/-- What `validate_closure_data` promises of the columns the aggregate knows. -/
theorem validateClosureData_eq_ok (ok : validateClosureData geo data existing = .ok geprueft) :
    gepruefteQualitaet data.geometryQuality (existing.bind (·.geometryQuality)) = .ok geprueft.data.geometryQuality ∧
      gepruefteGeometrie geo data.geometryGeojson (existing.bind (·.geometryGeojson)) = .ok geprueft.data.geometryGeojson ∧
      geprueft.data.street = stripped (data.street.getD (existing.bind (·.street))) ∧
      (geprueft.data.street ≠ none ∨ geprueft.data.geometryGeojson ≠ none) ∧
      gepruefterStatus data.geometryStatus (existing.map (·.geometryStatus)) geprueft.data.geometryGeojson =
        .ok geprueft.data.geometryStatus := by
  simp only [validateClosureData, bind_eq_ok, demand_eq_ok, require_eq_ok, pure_eq_ok] at ok
  obtain ⟨-, -, -, -, -, -, -, -, quality, isQuality, -, -, geometry, isGeometry, -, etwas, status, isStatus, rfl⟩ := ok
  exact ⟨isQuality, isGeometry, rfl, etwas, isStatus⟩

theorem stripped_ne {value : Option String} {text : String} (is : stripped value = some text) : text ≠ "" := by
  obtain ⟨-, nonempty⟩ := Option.filter_eq_some_iff.mp is
  exact of_decide_eq_true nonempty

theorem gepruefterStatus_missing {value : Option (Option String)} {alt : Option GeometryStatus} {geometrie : Option (Geometrie κ)}
    {status : GeometryStatus} (ok : gepruefterStatus value alt geometrie = .ok status)
    (gefragt : value = some (some "missing") → geometrie = none) : status = .missing ↔ geometrie = none := by
  unfold gepruefterStatus at ok
  split at ok
  · next leer =>
    cases ok
    exact iff_of_true rfl leer
  next voll =>
  refine iff_of_false (fun missing => ?_) voll
  subst missing
  split at ok
  · cases ok
  · next alt =>
    have same := Except.ok.inj ok
    split at same
    · cases same
    · next differs => exact differs same
  · next text =>
    rw [demand_eq_ok] at ok
    obtain ⟨text', rfl, isText⟩ := Option.bind_eq_some_iff.mp ok
    unfold GeometryStatus.ofText? at isText
    split at isText
    · cases isText
    · cases isText
    · exact voll (gefragt rfl)
    · cases isText

end Validieren

end Einsatzcockpit.Sperre
