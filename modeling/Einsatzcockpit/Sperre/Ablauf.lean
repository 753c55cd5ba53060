import Einsatzcockpit.Sperre.Aggregat

namespace Einsatzcockpit.Sperre

open Raising Relational Transition

variable {κ ι β : Type} {geo : Geo κ ι β}

section Bedingung

variable [DecidableEq κ] (geo)

def Daten.Unveraendert (changes : Daten ι) (closure : RoadClosure κ β) : Prop :=
  (∀ value ∈ changes.street, stripped value = closure.street) ∧
    (∀ value ∈ changes.geometryGeojson, Yields (gepruefteGeometrie geo (some value) none) (· = closure.geometryGeojson)) ∧
    (closure.geometryGeojson ≠ none →
      ∀ value ∈ changes.geometryStatus, ∀ status ∈ value.bind GeometryStatus.ofText?, status = closure.geometryStatus) ∧
    ∀ value ∈ changes.geometryQuality, Yields (gepruefteQualitaet (some value) none) (· = closure.geometryQuality)

def Daten.Ehrlich (data : Daten ι) (geometrie : Option (Geometrie κ)) : Prop :=
  data.geometryStatus = some (some "missing") → Yields (gepruefteGeometrie geo data.geometryGeojson geometrie) (· = none)

instance (changes : Daten ι) (closure : RoadClosure κ β) : Decidable (changes.Unveraendert geo closure) := by
  unfold Daten.Unveraendert
  infer_instance

instance (data : Daten ι) (geometrie : Option (Geometrie κ)) : Decidable (data.Ehrlich geo geometrie) := by
  unfold Daten.Ehrlich
  infer_instance

/-- The columns of a closure are changed through its sections where it has
several, and along with new sections. -/
def UpdatePasst (closure : RoadClosure κ β) (now : Zeit) (changes : Daten ι) (sections : Option (List (Daten ι)))
    (expectedVersion : Option Nat) : Prop :=
  (∃ version ∈ expectedVersion, version ≠ closure.version) ∨
    match sections with
    | some sections =>
      Yields (validateSections (β := β) geo now sections) fun values =>
        (sortedSections closure.sections).map (·.toSectionData) = values → changes.Unveraendert geo closure
    | none =>
      if closure.sections.length ≤ 1 then changes.Ehrlich geo closure.geometryGeojson else changes.Unveraendert geo closure

/-- A geometry is confirmed where the sections have one, and given where there
is a section. -/
def ConfirmPasst (closure : RoadClosure κ β) (geometry : Option ι) (expectedVersion : Option Nat) : Prop :=
  (∃ version ∈ expectedVersion, version ≠ closure.version) ∨
    match geometry with
    | some raw => Yields (geo.validate raw) fun _ => closure.sections ≠ []
    | none => closure.geometryGeojson ≠ none → ∀ s ∈ closure.sections, s.geometryGeojson ≠ none

instance (closure : RoadClosure κ β) (now : Zeit) (changes : Daten ι) (sections : Option (List (Daten ι)))
    (expectedVersion : Option Nat) : Decidable (UpdatePasst geo closure now changes sections expectedVersion) := by
  unfold UpdatePasst
  cases sections <;> infer_instance

instance (closure : RoadClosure κ β) (geometry : Option ι) (expectedVersion : Option Nat) :
    Decidable (ConfirmPasst geo closure geometry expectedVersion) := by
  unfold ConfirmPasst
  cases geometry <;> infer_instance

def Zulaessig (welt : Welt κ β) : Aktion ι → Prop
  | .create _ _ data none => data.Ehrlich geo none
  | .update id now changes sections expectedVersion =>
    ∀ closure ∈ welt.sperren.get? id, UpdatePasst geo closure now changes sections expectedVersion
  | .confirm id geometry expectedVersion => ∀ closure ∈ welt.sperren.get? id, ConfirmPasst geo closure geometry expectedVersion
  | _ => True

instance (welt : Welt κ β) (aktion : Aktion ι) : Decidable (Zulaessig geo welt aktion) := by
  unfold Zulaessig
  split <;> infer_instance

end Bedingung

section Geprueft

variable {closure : RoadClosure κ β} {changes : Daten ι} {geprueft : Geprueft κ}

theorem geprueft_geometry_none (ok : validateClosureData geo changes (some closure) = .ok geprueft)
    (ohne : changes.geometryGeojson = none) : geprueft.data.geometryGeojson = none ↔ closure.geometryGeojson = none := by
  obtain ⟨-, geometry, -⟩ := validateClosureData_eq_ok ok
  rw [ohne, Option.bind_some] at geometry
  unfold gepruefteGeometrie at geometry
  cases alt : closure.geometryGeojson with
  | none =>
    rw [alt] at geometry
    exact iff_of_true (Except.ok.inj geometry).symm rfl
  | some geom =>
    rw [alt] at geometry
    obtain ⟨neu, -, same⟩ := map_eq_ok.mp geometry
    rw [← same]
    exact iff_of_false (Option.some_ne_none neu) (Option.some_ne_none geom)

section

variable (missing : closure.geometryStatus = .missing ↔ closure.geometryGeojson = none) (ok : validateClosureData geo changes (some closure) = .ok geprueft)
include missing ok

theorem schreibe_missing (ehrlich : changes.Ehrlich geo closure.geometryGeojson) :
    (geprueft.schreibe changes closure).geometryStatus = .missing ↔
      (geprueft.schreibe changes closure).geometryGeojson = none := by
  obtain ⟨-, geometry, -, -, status⟩ := validateClosureData_eq_ok ok
  have checked : geprueft.data.geometryStatus = .missing ↔ geprueft.data.geometryGeojson = none :=
    gepruefterStatus_missing status fun asked => ehrlich asked _ geometry
  unfold Geprueft.schreibe
  dsimp only
  cases given : changes.geometryGeojson with
  | some value => simpa using checked
  | none =>
    have kept := geprueft_geometry_none ok given
    cases changes.geometryStatus with
    | some value => simpa using checked.trans kept
    | none => simpa using missing

theorem schreibe_unveraendert (gleich : changes.Unveraendert geo closure) :
    (geprueft.schreibe changes closure).street = closure.street ∧
      (geprueft.schreibe changes closure).geometryGeojson = closure.geometryGeojson ∧
      (geprueft.schreibe changes closure).geometryStatus = closure.geometryStatus ∧
      (geprueft.schreibe changes closure).geometryQuality = closure.geometryQuality := by
  obtain ⟨quality, geometry, street, -, status⟩ := validateClosureData_eq_ok ok
  obtain ⟨sameStreet, sameGeometry, sameStatus, sameQuality⟩ := gleich
  have geometryGiven : ∀ value, changes.geometryGeojson = some value → geprueft.data.geometryGeojson = closure.geometryGeojson := by
    intro value given
    rw [given] at geometry
    refine sameGeometry value given _ ?_
    cases value <;> exact geometry
  have nothing : geprueft.data.geometryGeojson = none ↔ closure.geometryGeojson = none := by
    cases given : changes.geometryGeojson with
    | none => exact geprueft_geometry_none ok given
    | some value => rw [geometryGiven value given]
  have checked : geprueft.data.geometryStatus = closure.geometryStatus := by
    unfold gepruefterStatus at status
    split at status
    · next leer =>
      rw [← Except.ok.inj status]
      exact (missing.mpr (nothing.mp leer)).symm
    next voll =>
    have some' : closure.geometryGeojson ≠ none := fun leer => voll (nothing.mpr leer)
    cases given : changes.geometryStatus with
    | none =>
      rw [given] at status
      have same := Except.ok.inj status
      rw [if_neg fun is => some' (missing.mp is)] at same
      exact same.symm
    | some value =>
      rw [given] at status
      exact sameStatus some' value given _ (demand_eq_ok.mp status)
  unfold Geprueft.schreibe
  refine ⟨?_, ?_, ?_, ?_⟩
  · cases given : changes.street with
    | none => simp
    | some value =>
      rw [given] at street
      simpa using street.trans (sameStreet value given)
  · cases given : changes.geometryGeojson with
    | none => simp
    | some value => simpa using geometryGiven value given
  · dsimp only
    split
    · exact checked
    · rfl
  · cases given : changes.geometryQuality with
    | none => simp
    | some value =>
      rw [given] at quality
      have same : geprueft.data.geometryQuality = closure.geometryQuality := by
        refine sameQuality value given _ ?_
        cases value <;> exact quality
      simpa using same

end

end Geprueft

section Vorgaenge

variable {closure : RoadClosure κ β}

theorem RoadClosure.Aggregiert.bbox_eq (h : closure.Aggregiert geo) : closure.bbox = closure.geometryGeojson.map geo.bbox := by
  rw [h.bbox, ← h.geometry]

theorem RoadClosure.Stimmt.of_same {neu : RoadClosure κ β} (h : closure.Stimmt geo) (sections : neu.sections = closure.sections)
    (street : neu.street = closure.street) (geometry : neu.geometryGeojson = closure.geometryGeojson)
    (status : neu.geometryStatus = closure.geometryStatus) (quality : neu.geometryQuality = closure.geometryQuality)
    (bbox : neu.bbox = closure.bbox) : neu.Stimmt geo := by
  obtain ⟨⟨isStreet, isGeometry, isStatus, isQuality, isBbox, positions, missing⟩, strassen⟩ := h
  refine ⟨⟨?_, ?_, ?_, ?_, ?_, ?_, ?_⟩, ?_⟩
  · rw [sections, street, isStreet]
  · rw [sections, geometry, isGeometry]
  · rw [sections, status, isStatus]
  · rw [sections, quality, isQuality]
  · rw [sections, bbox, isBbox]
  · rw [sections, positions]
  · rw [status, geometry, missing]
  · rw [sections]
    exact strassen

theorem aggregate_nil : (aggregate geo []).street = none ∧ (aggregate geo []).geometryGeojson = none :=
  ⟨by simp [aggregate, sortedSections, aggregateStreet, String.intercalate], rfl⟩

theorem RoadClosure.Stimmt.street_gut (h : closure.Stimmt geo) (einer : closure.sections.length ≤ 1) :
    StreetGut closure.street := by
  match isSections : closure.sections with
  | [] =>
    rw [h.aggregiert.street, isSections, aggregate_nil.1]
    exact fun text none => by cases none
  | [s] =>
    have gut : StreetGut s.street := h.strassen s (by rw [isSections]; exact List.mem_singleton_self s)
    rw [h.aggregiert.street, isSections, (aggregate_single s gut).1]
    exact gut
  | _ :: _ :: _ =>
    rw [isSections] at einer
    simp at einer

theorem setBbox_syncSingleSection (closure : RoadClosure κ β) :
    setBbox geo (syncSingleSection closure) = syncSingleSection (setBbox geo closure) := by
  unfold syncSingleSection setBbox
  dsimp only
  split
  · split <;> rfl
  · rfl
  · rfl

theorem syncSingleSection_columns (closure : RoadClosure κ β) :
    (syncSingleSection closure).toSectionData = closure.toSectionData ∧ (syncSingleSection closure).bbox = closure.bbox := by
  unfold syncSingleSection
  split
  · split <;> exact ⟨rfl, rfl⟩
  · exact ⟨rfl, rfl⟩
  · exact ⟨rfl, rfl⟩

theorem syncSingleSection_mehrere (mehrere : 1 < closure.sections.length) : syncSingleSection closure = closure := by
  unfold syncSingleSection
  match isSections : closure.sections with
  | [] =>
    rw [isSections] at mehrere
    simp at mehrere
  | [_] =>
    rw [isSections] at mehrere
    simp at mehrere
  | _ :: _ :: _ => rfl

theorem validateSections_gut {now : Zeit} {sections : List (Daten ι)} {values : List (SectionData κ)}
    (ok : validateSections (β := β) geo now sections = .ok values) : ∀ value ∈ values, StreetGut value.street := by
  intro value member text isStreet
  obtain ⟨data, -, image⟩ := exists_of_mem_mapM ok member
  simp only [bind_eq_ok, require_eq_ok, pure_eq_ok] at image
  obtain ⟨-, short, -, -, -, -, geprueft, isGeprueft, rfl⟩ := image
  obtain ⟨-, -, street, -⟩ := validateClosureData_eq_ok isGeprueft
  rw [street] at isStreet
  refine ⟨stripped_ne isStreet, ?_⟩
  obtain ⟨mapped, -⟩ := Option.filter_eq_some_iff.mp isStreet
  obtain ⟨raw, isRaw, rfl⟩ := Option.map_eq_some_iff.mp mapped
  refine short raw ?_
  cases given : data.street with
  | none =>
    rw [given] at isRaw
    cases isRaw
  | some inner =>
    rw [given] at isRaw
    rw [Option.join_some]
    exact isRaw

theorem nummeriert_stimmt {values : List (SectionData κ)} (gut : ∀ value ∈ values, StreetGut value.street)
    (closure : RoadClosure κ β) : (aggregateSections geo { closure with sections := nummeriert values }).Stimmt geo :=
  stimmt_aggregateSections (nummeriert_positions values) fun s member => gut s.toSectionData (mem_nummeriert member)

theorem createClosure_stimmt {orgId id : Nat} {now : Zeit} {data : Daten ι} {sections : Option (List (Daten ι))}
    (ok : createClosure geo orgId now data sections id = .ok closure) (ehrlich : sections = none → data.Ehrlich geo none) :
    closure.Stimmt geo := by
  cases sections with
  | some sections =>
    simp only [createClosure, bind_eq_ok, pure_eq_ok] at ok
    obtain ⟨values, isValues, geprueft, -, -, -, rfl⟩ := ok
    exact nummeriert_stimmt (validateSections_gut isValues) (geprueft.sperre id orgId)
  | none =>
    simp only [createClosure, bind_eq_ok, require_eq_ok, pure_eq_ok] at ok
    obtain ⟨geprueft, isGeprueft, -, passt, rfl⟩ := ok
    obtain ⟨-, geometry, street, etwas, status⟩ := validateClosureData_eq_ok isGeprueft
    have gut : StreetGut geprueft.data.street := by
      intro text isText
      refine ⟨stripped_ne (street.symm.trans isText), passt text isText⟩
    exact syncSingleSection_stimmt (Nat.zero_le 1) rfl (fun _ => etwas) gut rfl
      (gepruefterStatus_missing status fun asked => ehrlich rfl asked _ geometry)

theorem gezaehlt_street (closure : RoadClosure κ β) (changed : Bool) : (gezaehlt geo closure changed).street = closure.street := by
  unfold gezaehlt
  split <;> rfl

theorem schreibe_einzeln {changes : Daten ι} {geprueft : Geprueft κ} (h : closure.Stimmt geo)
    (einer : closure.sections.length ≤ 1) (ok : validateClosureData geo changes (some closure) = .ok geprueft)
    (ehrlich : changes.Ehrlich geo closure.geometryGeojson) (passt : streetPasst (geprueft.schreibe changes closure)) :
    (syncSingleSection (setBbox geo (geprueft.schreibe changes closure))).Stimmt geo := by
  obtain ⟨-, -, street, etwas, -⟩ := validateClosureData_eq_ok ok
  refine syncSingleSection_stimmt einer h.aggregiert.positions (fun leer => ?_) ?_ rfl (schreibe_missing h.aggregiert.missing ok ehrlich)
  · -- a closure without sections has neither street nor geometry, so one of them is given
    have ohneStreet : closure.street = none := by rw [h.aggregiert.street, show closure.sections = [] from leer, aggregate_nil.1]
    have ohneGeometrie : closure.geometryGeojson = none := by
      rw [h.aggregiert.geometry, show closure.sections = [] from leer, aggregate_nil.2]
    rcases etwas with isStreet | isGeometry
    · left
      cases given : changes.street with
      | none =>
        rw [street, given, Option.getD_none, Option.bind_some, ohneStreet] at isStreet
        exact absurd rfl isStreet
      | some value => simpa [setBbox, Geprueft.schreibe, given] using isStreet
    · right
      cases given : changes.geometryGeojson with
      | none => exact absurd ((geprueft_geometry_none ok given).mpr ohneGeometrie) isGeometry
      | some value => simpa [setBbox, Geprueft.schreibe, given] using isGeometry
  · intro text isText
    refine ⟨?_, passt text isText⟩
    cases given : changes.street with
    | none => exact (h.street_gut einer text (by simpa [setBbox, Geprueft.schreibe, given] using isText)).1
    | some value =>
      have isStripped : geprueft.data.street = some text := by simpa [setBbox, Geprueft.schreibe, given] using isText
      exact stripped_ne (street.symm.trans isStripped)

section Aendern

variable [DecidableEq κ]

/-- The end of `update_closure` sets the box, but for columns that are as they
were. -/
theorem abgeschlossen_stimmt {alt neu : RoadClosure κ β} {sectionsChanged : Bool} (h : alt.Stimmt geo)
    (stimmt : streetPasst neu → (setBbox geo neu).Stimmt geo)
    (bbox : neu.bbox = alt.bbox ∨ neu.bbox = neu.geometryGeojson.map geo.bbox) :
    (abgeschlossen geo alt neu sectionsChanged).closure.Stimmt geo := by
  unfold abgeschlossen
  dsimp only
  split
  · next passt =>
    unfold streetPasst at passt
    rw [gezaehlt_street] at passt
    have ganz := stimmt passt
    unfold gezaehlt
    split
    · exact ganz.of_same rfl rfl rfl rfl rfl rfl
    · next unchanged =>
      simp only [Bool.or_eq_true, decide_eq_true_eq, not_or, not_not] at unchanged
      obtain ⟨-, -, -, -, same⟩ := unchanged
      refine ganz.of_same rfl rfl rfl rfl rfl ?_
      rcases bbox with old | own
      · exact (old.trans h.aggregiert.bbox_eq).trans (congrArg (fun data => data.geometryGeojson.map geo.bbox) same)
      · exact own
  · exact h

theorem applySections_stimmt {values : List (SectionData κ)} (gut : ∀ value ∈ values, StreetGut value.street)
    (sonst : (sortedSections closure.sections).map (·.toSectionData) = values → closure.Stimmt geo) :
    (applySections geo closure values).1.Stimmt geo := by
  unfold applySections
  split
  · next same => exact sonst same
  · exact nummeriert_stimmt gut closure

theorem updateClosure_stimmt {now : Zeit} {changes : Daten ι} {sections : Option (List (Daten ι))} {expectedVersion : Option Nat}
    (h : closure.Stimmt geo) (passt : UpdatePasst geo closure now changes sections expectedVersion) :
    (updateClosure geo closure now changes sections expectedVersion).closure.Stimmt geo := by
  unfold updateClosure
  split
  · exact h
  next current =>
  replace passt := passt.resolve_left current
  split
  · exact h
  · exact h
  next values geprueft isValues isGeprueft =>
  have unveraendert : changes.Unveraendert geo closure → (geprueft.schreibe changes closure).Stimmt geo := by
    intro gleich
    obtain ⟨street, geometry, status, quality⟩ := schreibe_unveraendert h.aggregiert.missing isGeprueft gleich
    exact h.of_same rfl street geometry status quality rfl
  cases sections with
  | some sections =>
    rw [Option.mapM_some, map_eq_ok] at isValues
    obtain ⟨values, validated, rfl⟩ := isValues
    have stimmt : (applySections geo (geprueft.schreibe changes closure) values).1.Stimmt geo :=
      applySections_stimmt (validateSections_gut validated) fun same => unveraendert (passt values validated same)
    refine abgeschlossen_stimmt h (fun _ => ?_) (Or.inr stimmt.aggregiert.bbox_eq)
    exact stimmt.of_same rfl rfl rfl rfl rfl stimmt.aggregiert.bbox_eq.symm
  | none =>
    cases isValues
    dsimp only at passt ⊢
    cases betroffen : changes.abschnitt with
    | false =>
      have nichts : changes.Unveraendert geo closure := by
        simp only [Daten.abschnitt, Bool.or_eq_false_iff, Option.isSome_eq_false_iff, Option.isNone_iff_eq_none] at betroffen
        obtain ⟨⟨⟨⟨⟨⟨⟨street, -⟩, -⟩, -⟩, geometry⟩, status⟩, quality⟩, -⟩ := betroffen
        unfold Daten.Unveraendert
        rw [street, geometry, status, quality]
        simp
      have stimmt := unveraendert nichts
      rw [if_neg Bool.false_ne_true]
      exact abgeschlossen_stimmt h (fun _ => stimmt.of_same rfl rfl rfl rfl rfl stimmt.aggregiert.bbox_eq.symm) (Or.inl rfl)
    | true =>
      rw [if_pos rfl]
      obtain ⟨columns, box⟩ := syncSingleSection_columns (geprueft.schreibe changes closure)
      refine abgeschlossen_stimmt h (fun fits => ?_) (Or.inl box)
      split at passt
      · next einer =>
        have fits' : streetPasst (geprueft.schreibe changes closure) := by
          unfold streetPasst at fits ⊢
          rw [columns] at fits
          exact fits
        rw [setBbox_syncSingleSection]
        exact schreibe_einzeln h einer isGeprueft passt fits'
      · next mehrere =>
        have stimmt := unveraendert passt
        have same : syncSingleSection (geprueft.schreibe changes closure) = geprueft.schreibe changes closure :=
          syncSingleSection_mehrere (Nat.lt_of_not_le mehrere)
        rw [same]
        exact stimmt.of_same rfl rfl rfl rfl rfl stimmt.aggregiert.bbox_eq.symm

theorem setSections_stimmt {now : Zeit} {sections : List (Daten ι)} (h : closure.Stimmt geo) :
    (setSections geo closure now sections).closure.Stimmt geo := by
  unfold setSections
  split
  · exact h
  · next values isValues =>
    have stimmt : (applySections geo closure values).1.Stimmt geo :=
      applySections_stimmt (validateSections_gut isValues) fun _ => h
    dsimp only
    split
    · exact stimmt.of_same rfl rfl rfl rfl rfl rfl
    · exact h

end Aendern

section Bestaetigen

def RoadClosureSection.bestaetigt (s : RoadClosureSection κ) : RoadClosureSection κ :=
  if s.geometryGeojson ≠ none then { s with geometryStatus := .ok } else s

theorem RoadClosureSection.bestaetigt_columns (s : RoadClosureSection κ) :
    s.bestaetigt.position = s.position ∧ s.bestaetigt.street = s.street ∧ s.bestaetigt.geometryGeojson = s.geometryGeojson ∧
      s.bestaetigt.geometryQuality = s.geometryQuality := by
  unfold RoadClosureSection.bestaetigt
  split <;> exact ⟨rfl, rfl, rfl, rfl⟩

theorem aggregate_bestaetigt {sections : List (RoadClosureSection κ)}
    (positions : sections.map (·.position) = List.range sections.length) (alle : ∀ s ∈ sections, s.geometryGeojson ≠ none)
    (etwas : (aggregate geo sections).geometryGeojson ≠ none) :
    let neu := sections.map RoadClosureSection.bestaetigt
    neu.map (·.position) = List.range neu.length ∧ (aggregate geo neu).street = (aggregate geo sections).street ∧
      (aggregate geo neu).geometryGeojson = (aggregate geo sections).geometryGeojson ∧
      (aggregate geo neu).geometryQuality = (aggregate geo sections).geometryQuality ∧
      (aggregate geo neu).geometryStatus = .ok := by
  intro neu
  have newPositions : neu.map (·.position) = List.range neu.length := by
    rw [List.map_map, List.length_map, ← positions]
    exact List.map_congr_left fun s _ => s.bestaetigt_columns.1
  have streets : neu.filterMap (·.street) = sections.filterMap (·.street) := by
    rw [List.filterMap_map]
    exact List.filterMap_congr fun s _ => s.bestaetigt_columns.2.1
  have geometries : neu.filterMap (·.geometryGeojson) = sections.filterMap (·.geometryGeojson) := by
    rw [List.filterMap_map]
    exact List.filterMap_congr fun s _ => s.bestaetigt_columns.2.2.1
  have qualities : neu.filterMap (·.geometryQuality) = sections.filterMap (·.geometryQuality) := by
    rw [List.filterMap_map]
    exact List.filterMap_congr fun s _ => s.bestaetigt_columns.2.2.2
  have sorted := sortedSections_of_positions positions
  have newSorted := sortedSections_of_positions newPositions
  have geometry : (aggregate geo neu).geometryGeojson = (aggregate geo sections).geometryGeojson := by
    simp only [aggregate, sorted, newSorted, geometries]
  refine ⟨newPositions, ?_, geometry, ?_, ?_⟩
  · simp only [aggregate, sorted, newSorted, streets]
  · simp only [aggregate, sorted, newSorted, qualities]
  · have present : (aggregate geo neu).geometryStatus ≠ .missing := by
      rw [Ne, aggregate_missing, geometry]
      exact etwas
    have full : (sections.filterMap (·.geometryGeojson)).length = neu.length := by
      rw [List.length_filterMap_eq_countP, List.length_map, List.countP_eq_length]
      exact fun s member => Option.isSome_iff_ne_none.mpr (alle s member)
    have confirmed : neu.all (fun s => s.geometryStatus == .ok) = true := by
      rw [List.all_eq_true]
      intro s member
      obtain ⟨old, isOld, rfl⟩ := List.mem_map.mp member
      rw [RoadClosureSection.bestaetigt, if_pos (alle old isOld)]
      rfl
    simp only [aggregate, newSorted, geometries] at present ⊢
    split at present
    · exact absurd rfl present
    · next voll => rw [if_neg voll, if_pos ⟨full, confirmed⟩]

theorem bestaetigt_einzeln (eine : closure.sections.length = 1)
    (positions : closure.sections.map (·.position) = List.range closure.sections.length) (gut : StreetGut closure.street)
    (bbox : closure.bbox = closure.geometryGeojson.map geo.bbox) (etwas : closure.geometryGeojson ≠ none) :
    (bestaetigt closure).Stimmt geo := by
  have nonempty : closure.sections ≠ [] := fun leer => by simp [leer] at eine
  rw [bestaetigt, if_pos eine]
  refine syncSingleSection_stimmt (Nat.le_of_eq eine) positions (fun leer => absurd leer nonempty) gut bbox ?_
  exact iff_of_false (fun missing => by cases missing) etwas

theorem bestaetigt_stimmt (h : closure.Stimmt geo) (etwas : closure.geometryGeojson ≠ none)
    (alle : ∀ s ∈ closure.sections, s.geometryGeojson ≠ none) : (bestaetigt closure).Stimmt geo := by
  by_cases eine : closure.sections.length = 1
  · exact bestaetigt_einzeln eine h.aggregiert.positions (h.street_gut (Nat.le_of_eq eine)) h.aggregiert.bbox_eq etwas
  have present : (aggregate geo closure.sections).geometryGeojson ≠ none := by
    rw [← h.aggregiert.geometry]
    exact etwas
  obtain ⟨positions, street, geometry, quality, status⟩ := aggregate_bestaetigt h.aggregiert.positions alle present
  rw [bestaetigt, if_neg eine]
  refine ⟨⟨?_, ?_, status.symm, ?_, ?_, positions, iff_of_false (fun missing => by cases missing) etwas⟩, fun s member => ?_⟩
  · exact h.aggregiert.street.trans street.symm
  · exact h.aggregiert.geometry.trans geometry.symm
  · exact h.aggregiert.quality.trans quality.symm
  · exact h.aggregiert.bbox.trans (congrArg (Option.map geo.bbox) geometry.symm)
  · obtain ⟨old, isOld, rfl⟩ := List.mem_map.mp member
    have gut := h.strassen old isOld
    rw [← old.bestaetigt_columns.2.1] at gut
    exact gut

theorem confirmGeometry_stimmt {geometry : Option ι} {expectedVersion : Option Nat} (h : closure.Stimmt geo)
    (passt : ConfirmPasst geo closure geometry expectedVersion) :
    (confirmGeometry geo closure geometry expectedVersion).closure.Stimmt geo := by
  unfold confirmGeometry
  split
  · exact h
  next current =>
  replace passt := passt.resolve_left current
  split
  · exact h
  next einzeln =>
  split
  · exact h
  next gegeben isGegeben =>
  dsimp only
  cases geometry with
  | none =>
    cases isGegeben
    split
    · exact h
    · next etwas => exact (bestaetigt_stimmt h etwas (passt etwas)).of_same rfl rfl rfl rfl rfl rfl
  | some raw =>
    rw [Option.mapM_some, map_eq_ok] at isGegeben
    obtain ⟨geom, validated, rfl⟩ := isGegeben
    have some' : (gezeichnet geo closure (some geom)).geometryGeojson ≠ none := Option.some_ne_none geom
    have nonempty : 0 < closure.sections.length := List.length_pos_iff.mpr (passt geom validated)
    have eine : closure.sections.length = 1 := by
      simp only [Option.isSome_some, true_and] at einzeln
      omega
    rw [if_neg some']
    have stimmt : (bestaetigt (gezeichnet geo closure (some geom))).Stimmt geo :=
      bestaetigt_einzeln eine h.aggregiert.positions (h.street_gut (Nat.le_of_eq eine)) rfl some'
    exact stimmt.of_same rfl rfl rfl rfl rfl rfl

end Bestaetigen

section Zustand

theorem deactivateClosure_stimmt {now : Zeit} {reason : String} (h : closure.Stimmt geo) :
    (deactivateClosure closure now reason).closure.Stimmt geo := by
  unfold deactivateClosure
  split
  · exact h
  · exact h.of_same rfl rfl rfl rfl rfl rfl

theorem reactivateClosure_stimmt (h : closure.Stimmt geo) : (reactivateClosure closure).closure.Stimmt geo := by
  unfold reactivateClosure
  split
  · exact h
  · exact h.of_same rfl rfl rfl rfl rfl rfl

theorem supersedeClosure_stimmt {new : RoadClosure κ β} {now : Zeit} (h : closure.Stimmt geo) :
    (supersedeClosure closure new now).closure.Stimmt geo := by
  unfold supersedeClosure
  split
  · exact h
  · split
    · exact h
    · exact deactivateClosure_stimmt (h.of_same rfl rfl rfl rfl rfl rfl)

theorem setShares_stimmt {shares partner orgIds : List Nat} (h : closure.Stimmt geo) :
    (setShares closure shares partner orgIds).1.closure.Stimmt geo := by
  unfold setShares
  split
  · exact h
  · dsimp only
    split
    · exact h
    · split
      · exact h
      · exact h.of_same rfl rfl rfl rfl rfl rfl

end Zustand

section Fehler

theorem deactivateClosure_fehler {now : Zeit} {reason : String} (fehler : (deactivateClosure closure now reason).fehler ≠ none) :
    (deactivateClosure closure now reason).closure = closure := by
  unfold deactivateClosure at fehler ⊢
  split at fehler
  · next already => rw [if_pos already]
  · exact absurd rfl fehler

theorem reactivateClosure_fehler (fehler : (reactivateClosure closure).fehler ≠ none) :
    (reactivateClosure closure).closure = closure := by
  unfold reactivateClosure at fehler ⊢
  split at fehler
  · next already => rw [if_pos already]
  · exact absurd rfl fehler

theorem supersedeClosure_fehler {new : RoadClosure κ β} {now : Zeit} (fehler : (supersedeClosure closure new now).fehler ≠ none) :
    (supersedeClosure closure new now).closure = closure := by
  unfold supersedeClosure at fehler ⊢
  split at fehler
  · next foreign => rw [if_pos foreign]
  · next own =>
    split at fehler
    · next cancelled => rw [if_neg own, if_pos cancelled]
    · next active =>
      have taken : (deactivateClosure { closure with supersededById := some new.id } now s!"Ersetzt durch Sperre #{new.id}").fehler =
          none := by rw [deactivateClosure, if_neg active]
      exact absurd taken fehler

theorem setShares_fehler {shares partner orgIds : List Nat} (fehler : (setShares closure shares partner orgIds).1.fehler ≠ none) :
    (setShares closure shares partner orgIds).1.closure = closure ∧ (setShares closure shares partner orgIds).2 = shares := by
  unfold setShares at fehler ⊢
  split at fehler
  · exact ⟨rfl, rfl⟩
  · dsimp only at fehler ⊢
    split at fehler
    · next rejected => rw [if_pos rejected]; exact ⟨rfl, rfl⟩
    · split at fehler <;> exact absurd rfl fehler

theorem confirmGeometry_fehler {geometry : Option ι} {expectedVersion : Option Nat}
    (fehler : (confirmGeometry geo closure geometry expectedVersion).fehler ≠ none) :
    (confirmGeometry geo closure geometry expectedVersion).closure = closure := by
  unfold confirmGeometry at fehler ⊢
  split
  · rfl
  next current =>
  rw [if_neg current] at fehler
  split
  · rfl
  next einzeln =>
  rw [if_neg einzeln] at fehler
  split
  · rfl
  · next gegeben isGegeben =>
    dsimp only
    split
    · next leer =>
      cases gegeben with
      | none => rfl
      | some geom => cases leer
    · next etwas =>
      simp only [isGegeben, if_neg etwas] at fehler
      exact absurd rfl fehler

variable [DecidableEq κ]

theorem abgeschlossen_fehler {alt neu : RoadClosure κ β} {sectionsChanged : Bool}
    (fehler : (abgeschlossen geo alt neu sectionsChanged).fehler ≠ none) :
    (abgeschlossen geo alt neu sectionsChanged).closure = alt := by
  unfold abgeschlossen at fehler ⊢
  dsimp only at fehler ⊢
  split at fehler
  · exact absurd rfl fehler
  · next tooLong => rw [if_neg tooLong]

theorem updateClosure_fehler {now : Zeit} {changes : Daten ι} {sections : Option (List (Daten ι))} {expectedVersion : Option Nat}
    (fehler : (updateClosure geo closure now changes sections expectedVersion).fehler ≠ none) :
    (updateClosure geo closure now changes sections expectedVersion).closure = closure := by
  unfold updateClosure at fehler ⊢
  split
  · rfl
  next current =>
  rw [if_neg current] at fehler
  split
  · rfl
  · rfl
  · next values geprueft isValues isGeprueft =>
    simp only [isValues, isGeprueft] at fehler
    dsimp only
    cases values with
    | none => exact abgeschlossen_fehler fehler
    | some values => exact abgeschlossen_fehler fehler

theorem setSections_fehler {now : Zeit} {sections : List (Daten ι)} (fehler : (setSections geo closure now sections).fehler ≠ none) :
    (setSections geo closure now sections).closure = closure := by
  unfold setSections at fehler ⊢
  split
  · rfl
  · next values isValues =>
    simp only [isValues] at fehler
    split at fehler <;> exact absurd rfl fehler

end Fehler

end Vorgaenge

section System

variable {welt : Welt κ β}

theorem aendere_stimmt {id : Nat} {vorgang : RoadClosure κ β → Ergebnis κ β}
    {keeps : ∀ closure, (vorgang closure).closure.id = closure.id} (h : ∀ closure ∈ welt.sperren.rows, closure.Stimmt geo)
    (bleibt : ∀ closure ∈ welt.sperren.get? id, closure.Stimmt geo → (vorgang closure).closure.Stimmt geo) :
    ∀ closure ∈ (welt.aendere id vorgang keeps).1.sperren.rows, closure.Stimmt geo := by
  intro closure member
  rcases @Keyed.mem_modify_cases _ _ _ id _ _ keeps member with old | ⟨old, found, rfl⟩
  · exact h closure old
  · exact bleibt old found (h old (Keyed.mem_of_get? found))

theorem aendere_fehler {id : Nat} {vorgang : RoadClosure κ β → Ergebnis κ β}
    {keeps : ∀ closure, (vorgang closure).closure.id = closure.id}
    (unberuehrt : ∀ closure, (vorgang closure).fehler ≠ none → (vorgang closure).closure = closure)
    (fehler : (welt.aendere id vorgang keeps).2 ≠ none) : (welt.aendere id vorgang keeps).1 = welt := by
  obtain ⟨text, isText⟩ := Option.ne_none_iff_exists'.mp fehler
  obtain ⟨closure, found, raised⟩ := Option.bind_eq_some_iff.mp isText
  have same : (vorgang closure).closure = closure := unberuehrt closure (Option.ne_none_iff_exists'.mpr ⟨text, raised⟩)
  have kept : welt.sperren.modify id (fun closure => (vorgang closure).closure) keeps = welt.sperren :=
    Keyed.modify_of_self found same
  exact congrArg (fun sperren => { welt with sperren }) kept

variable [DecidableEq κ]

theorem step_stimmt (aktion : Aktion ι) (h : ∀ closure ∈ welt.sperren.rows, closure.Stimmt geo)
    (zulaessig : Zulaessig geo welt aktion) : ∀ closure ∈ (step geo welt aktion).sperren.rows, closure.Stimmt geo := by
  cases aktion with
  | create orgId now data sections =>
    have ehrlich : sections = none → data.Ehrlich geo none := by
      rintro rfl
      exact zulaessig
    simp only [step, vollziehe]
    split
    · next closure created =>
      intro closure' member
      rcases Keyed.mem_insert_cases member with old | rfl
      · exact h closure' old
      · exact (createClosure_stimmt created ehrlich).of_same rfl rfl rfl rfl rfl rfl
    · exact h
  | update id now changes sections expectedVersion =>
    exact aendere_stimmt h fun closure found stimmt => updateClosure_stimmt stimmt (zulaessig closure found)
  | setSections id now sections => exact aendere_stimmt h fun _ _ stimmt => setSections_stimmt stimmt
  | confirm id geometry expectedVersion =>
    exact aendere_stimmt h fun closure found stimmt => confirmGeometry_stimmt stimmt (zulaessig closure found)
  | deactivate id now reason => exact aendere_stimmt h fun _ _ stimmt => deactivateClosure_stimmt stimmt
  | reactivate id => exact aendere_stimmt h fun _ _ stimmt => reactivateClosure_stimmt stimmt
  | supersede old new now =>
    simp only [step, vollziehe]
    split
    · exact aendere_stimmt h fun _ _ stimmt => supersedeClosure_stimmt stimmt
    · exact h
  | setShares id partner orgIds =>
    have keeps := setShares_id (welt.shares id) partner orgIds (κ := κ) (β := β)
    exact @aendere_stimmt _ _ _ _ _ _ _ keeps h fun _ _ stimmt => setShares_stimmt stimmt

theorem vollziehe_fehler (aktion : Aktion ι) (fehler : (vollziehe geo welt aktion).2 ≠ none) :
    (vollziehe geo welt aktion).1 = welt := by
  cases aktion with
  | create orgId now data sections =>
    simp only [vollziehe] at fehler ⊢
    split
    · next created =>
      rw [created] at fehler
      exact absurd rfl fehler
    · rfl
  | update id now changes sections expectedVersion => exact aendere_fehler (fun _ => updateClosure_fehler) fehler
  | setSections id now sections => exact aendere_fehler (fun _ => setSections_fehler) fehler
  | confirm id geometry expectedVersion => exact aendere_fehler (fun _ => confirmGeometry_fehler) fehler
  | deactivate id now reason => exact aendere_fehler (fun _ => deactivateClosure_fehler) fehler
  | reactivate id => exact aendere_fehler (fun _ => reactivateClosure_fehler) fehler
  | supersede old new now =>
    simp only [vollziehe] at fehler ⊢
    split
    · next found =>
      rw [found] at fehler
      exact aendere_fehler (fun _ => supersedeClosure_fehler) fehler
    · rfl
  | setShares id partner orgIds =>
    have keeps := setShares_id (welt.shares id) partner orgIds (κ := κ) (β := β)
    have same := @aendere_fehler _ _ _ _ _ keeps (fun _ raised => (setShares_fehler raised).1) fehler
    obtain ⟨text, isText⟩ := Option.ne_none_iff_exists'.mp fehler
    obtain ⟨closure, found, raised⟩ := Option.bind_eq_some_iff.mp isText
    have shares := (setShares_fehler (Option.ne_none_iff_exists'.mpr ⟨text, raised⟩)).2
    simp only [vollziehe]
    rw [same, found]
    dsimp only
    rw [shares]
    have unchanged : (fun other => if other = id then welt.shares id else welt.shares other) = welt.shares := by
      funext other
      split
      · next isId => rw [isId]
      · rfl
    rw [unchanged]

end System

variable [DecidableEq κ]

/-- In every run whose operations meet the condition each closure is the
aggregate of its sections, and an operation that raises changes nothing. -/
theorem aggregat_bleibt (aktionen : List (Aktion ι))
    (zulaessig : Meets (step geo) (Zulaessig geo) ({ sperren := .empty } : Welt κ β) aktionen) :
    (∀ closure ∈ (run (step geo) { sperren := .empty } aktionen).sperren.rows, closure.Aggregiert geo) ∧
      ∀ erste aktion zweite, aktionen = erste ++ aktion :: zweite →
        (vollziehe geo (run (step geo) { sperren := .empty } erste) aktion).2 ≠ none →
          run (step geo) { sperren := .empty } (erste ++ [aktion]) = run (step geo) { sperren := .empty } erste := by
  refine ⟨fun closure member => ?_, fun erste aktion zweite _ fehler => ?_⟩
  · have stimmt := run_induction (fun welt => ∀ closure ∈ welt.sperren.rows, closure.Stimmt geo)
      (fun _ aktion held passt => step_stimmt aktion held passt) (fun _ none => by cases none) zulaessig
    exact (stimmt closure member).aggregiert
  · rw [run_append]
    exact vollziehe_fehler aktion fehler

section Beispiel

inductive Koordinate where
  | punkt (lng lat : Int)
  | linie (punkte : List (Int × Int))
  deriving DecidableEq

def Koordinate.punkte : Koordinate → List (Int × Int)
  | .punkt lng lat => [(lng, lat)]
  | .linie punkte => punkte

def grenze (waehle : Int → Int → Int) : List Int → Int
  | [] => 0
  | wert :: rest => rest.foldl waehle wert

/-- Lines that are given as they are, with the least and the greatest latitude
and longitude. -/
def linien : Geo Koordinate (Geometrie Koordinate) (Int × Int × Int × Int) where
  liste := fun inhalt => .linie (inhalt.flatMap Koordinate.punkte)
  objekt := fun geom => .linie (geom.inhalt.flatMap Koordinate.punkte)
  validate := fun geom => if geom.inhalt.length < 2 then .error "Ungültige Geometrie." else .ok geom
  leer := fun _ => false
  text := id
  bbox := fun geom =>
    let punkte := geom.inhalt.flatMap Koordinate.punkte
    (grenze min (punkte.map (·.2)), grenze min (punkte.map (·.1)), grenze max (punkte.map (·.2)),
      grenze max (punkte.map (·.1)))
  istJson := fun _ => true

def nord : Geometrie Koordinate := { typ := "LineString", inhalt := [.punkt 97400 474100, .punkt 97500 474200] }

def sued : Geometrie Koordinate := { typ := "LineString", inhalt := [.punkt 97300 474000, .punkt 97400 474050] }

def mitStrasse (street : String) : Daten (Geometrie Koordinate) := { street := some (some street) }

def abschnitt (street : String) (geom : Geometrie Koordinate) : Daten (Geometrie Koordinate) :=
  { street := some (some street), geometryGeojson := some (some geom) }

def ungeprueft (street : String) (geom : Geometrie Koordinate) : Daten (Geometrie Koordinate) :=
  { street := some (some street), geometryGeojson := some (some geom), geometryStatus := some (some "needs_review") }

def gesperrt : Daten (Geometrie Koordinate) := { title := some "Baustelle", validFrom := some 100 }

def zweiAbschnitte : Aktion (Geometrie Koordinate) :=
  .create 1 90 gesperrt (some [abschnitt "Hauptstraße" nord, ungeprueft "Seestraße" sued])

/-- Two sections are confirmed and replaced by one, whose columns are then
edited. -/
def ablauf : List (Aktion (Geometrie Koordinate)) :=
  [zweiAbschnitte, .confirm 1 none (some 1), .setSections 1 95 [mitStrasse "Seestraße"],
    .update 1 96 { street := some (some " Hauptstraße "), geometryQuality := some (some "mittel") } none none,
    .confirm 1 (some sued) none, .create 1 97 { gesperrt with street := some (some "Dorfstraße") } none,
    .setShares 1 [2] [2, 1], .supersede 1 2 98, .deactivate 1 99 "Ende"]

theorem aggregat_bleibt_ablauf :
    ((run (step linien) { sperren := .empty } ablauf).sperren.get? 1).map (fun c => (c.street, c.geometryQuality)) =
        some (some "Hauptstraße", some .manuell) ∧
      ((run (step linien) { sperren := .empty } ablauf).sperren.get? 1).bind (·.bbox) =
        some (474000, 97300, 474050, 97400) ∧
      (∀ closure ∈ (run (step linien) { sperren := .empty } ablauf).sperren.rows, closure.Aggregiert linien) :=
  ⟨by decide +kernel, by decide +kernel, (aggregat_bleibt ablauf (by decide +kernel)).1⟩

def umbenannt : List (Aktion (Geometrie Koordinate)) := [zweiAbschnitte, .update 1 95 (mitStrasse "Dorfstraße") none none]

def mitGleichen : List (Aktion (Geometrie Koordinate)) :=
  [zweiAbschnitte,
    .update 1 95 (mitStrasse "Dorfstraße") (some [abschnitt "Hauptstraße" nord, ungeprueft "Seestraße" sued]) none]

def alsFehlend : List (Aktion (Geometrie Koordinate)) :=
  [.create 1 90 { gesperrt with geometryGeojson := some (some nord), geometryStatus := some (some "missing") } none]

def halbBestaetigt : List (Aktion (Geometrie Koordinate)) :=
  [.create 1 90 gesperrt (some [abschnitt "Hauptstraße" nord, mitStrasse "Seestraße"]), .confirm 1 none none]

def ohneAbschnitt : List (Aktion (Geometrie Koordinate)) :=
  [.create 1 90 { gesperrt with street := some (some "Hauptstraße") } none, .setSections 1 95 [], .confirm 1 (some nord) none]

/-- The columns of a closure move away from its sections. -/
theorem aggregat_verloren :
    (¬ ∀ closure ∈ (run (step linien) { sperren := .empty } umbenannt).sperren.rows,
        closure.street = (aggregate linien closure.sections).street) ∧
      (¬ ∀ closure ∈ (run (step linien) { sperren := .empty } mitGleichen).sperren.rows,
        closure.street = (aggregate linien closure.sections).street) ∧
      (¬ ∀ closure ∈ (run (step linien) { sperren := .empty } alsFehlend).sperren.rows,
        (closure.geometryStatus = .missing ↔ closure.geometryGeojson = none)) ∧
      (¬ ∀ closure ∈ (run (step linien) { sperren := .empty } halbBestaetigt).sperren.rows,
        closure.geometryStatus = (aggregate linien closure.sections).geometryStatus) ∧
      (¬ ∀ closure ∈ (run (step linien) { sperren := .empty } ohneAbschnitt).sperren.rows,
        closure.geometryGeojson = (aggregate linien closure.sections).geometryGeojson) ∧
      ¬ ∀ aktionen, ∀ closure ∈ (run (step linien) { sperren := .empty } aktionen).sperren.rows, closure.Aggregiert linien := by
  have street : ¬ ∀ closure ∈ (run (step linien) { sperren := .empty } umbenannt).sperren.rows,
      closure.street = (aggregate linien closure.sections).street := by decide +kernel
  refine ⟨street, by decide +kernel, by decide +kernel, by decide +kernel, by decide +kernel, fun always => ?_⟩
  exact street fun closure member => (always umbenannt closure member).street

end Beispiel

end Einsatzcockpit.Sperre
