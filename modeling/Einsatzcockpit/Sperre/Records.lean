import Einsatzcockpit.Lib.Keyed
import Einsatzcockpit.Lib.Raise
import Einsatzcockpit.Lib.Run
import Einsatzcockpit.Basis
import Mathlib.Data.List.Sort

/-! Road closures and their sections, `road_closure_service.py`. -/

namespace Einsatzcockpit.Sperre

open Raising Relational

inductive Direction where
  | both | forward | backward
  deriving DecidableEq

inductive GeometryStatus where
  | ok | needsReview | missing
  deriving DecidableEq

def Direction.text : Direction → String
  | .both => "both"
  | .forward => "forward"
  | .backward => "backward"

def GeometryStatus.text : GeometryStatus → String
  | .ok => "ok"
  | .needsReview => "needs_review"
  | .missing => "missing"

/-- `GEOMETRY_STATUS` -/
def GeometryStatus.ofText? : String → Option GeometryStatus
  | "ok" => some .ok
  | "needs_review" => some .needsReview
  | "missing" => some .missing
  | _ => none

inductive GeometryQuality where
  | hoch | mittel | niedrig | manuell
  deriving DecidableEq

def GeometryQuality.text : GeometryQuality → String
  | .hoch => "hoch"
  | .mittel => "mittel"
  | .niedrig => "niedrig"
  | .manuell => "manuell"

/-- `GEOMETRY_QUALITY` -/
def GeometryQuality.ofText? : String → Option GeometryQuality
  | "hoch" => some .hoch
  | "mittel" => some .mittel
  | "niedrig" => some .niedrig
  | "manuell" => some .manuell
  | _ => none

/-- The ranks of `_aggregate_sections`. -/
def GeometryQuality.rank : GeometryQuality → Nat
  | .niedrig => 0
  | .mittel => 1
  | .hoch => 2
  | .manuell => 2

section Geo

/-- A GeoJSON geometry over the values of JSON: its type and its coordinates, or
its geometries. -/
structure Geometrie (κ : Type) where
  typ : String
  inhalt : List κ
  deriving DecidableEq

/-- What the operations take from JSON and from shapely: a list and a geometry
as values, the check of an argument, the stored text as an argument, the bounds
and the texts that are JSON. -/
structure Geo (κ ι β : Type) where
  liste : List κ → κ
  objekt : Geometrie κ → κ
  validate : ι → Except String (Geometrie κ)
  leer : ι → Bool
  text : Geometrie κ → ι
  bbox : Geometrie κ → β
  istJson : String → Bool

variable {κ ι β : Type} (geo : Geo κ ι β)

/-- A loop of `merge_geometries`. -/
def gleichartig (single multi : String) (geoms : List (Geometrie κ)) : Option (Geometrie κ) :=
  if geoms.all fun g => g.typ == single || g.typ == multi then
    some { typ := multi, inhalt := geoms.flatMap fun g => if g.typ = single then [geo.liste g.inhalt] else g.inhalt }
  else none

/-- `merge_geometries` -/
def mergeGeometries : List (Geometrie κ) → Option (Geometrie κ)
  | [] => none
  | [geom] => some geom
  | geoms =>
    ((gleichartig geo "LineString" "MultiLineString" geoms).or
      ((gleichartig geo "Polygon" "MultiPolygon" geoms).or (gleichartig geo "Point" "MultiPoint" geoms))).or
        (some { typ := "GeometryCollection", inhalt := geoms.map geo.objekt })

end Geo

/-- The columns that a closure shares with its sections, `_SECTION_FIELDS`. -/
structure SectionData (κ : Type) where
  street : Option String := none
  fromText : Option String := none
  toText : Option String := none
  direction : Option Direction := none
  geometryGeojson : Option (Geometrie κ) := none
  geometryStatus : GeometryStatus := .missing
  geometryQuality : Option GeometryQuality := none
  geometryMetaJson : Option String := none
  deriving DecidableEq

structure RoadClosureSection (κ : Type) extends SectionData κ where
  position : Nat

structure RoadClosure (κ β : Type) extends SectionData κ where
  id : Nat
  orgId : Option Nat
  title : String
  validFrom : Zeit
  validUntil : Option Zeit := none
  bbox : Option β := none
  cancelledAt : Option Zeit := none
  cancelReason : Option String := none
  supersededById : Option Nat := none
  version : Nat := 1
  sections : List (RoadClosureSection κ) := []

structure Daten (ι : Type) where
  title : Option String := none
  validFrom : Option Zeit := none
  validUntil : Option (Option Zeit) := none
  street : Option (Option String) := none
  fromText : Option (Option String) := none
  toText : Option (Option String) := none
  direction : Option (Option String) := none
  geometryGeojson : Option (Option ι) := none
  geometryStatus : Option (Option String) := none
  geometryQuality : Option (Option String) := none
  geometryMetaJson : Option (Option String) := none

section Normalisieren

/-- `str.casefold`, as far as it leads to the letters of the keys below. -/
def casefold (c : Char) : List Char :=
  if 'A' ≤ c ∧ c ≤ 'Z' then [Char.ofNat (c.toNat + 32)]
  else if c = 'Ä' then ['ä'] else if c = 'Ö' then ['ö'] else if c = 'Ü' then ['ü']
  else if c = 'ß' ∨ c.toNat = 0x1E9E then ['s', 's']
  else if c.toNat = 0x212A then ['k'] else if c.toNat = 0x17F then ['s']
  else if c.toNat = 0xFB00 then ['f', 'f'] else if c.toNat = 0xFB01 then ['f', 'i'] else if c.toNat = 0xFB02 then ['f', 'l']
  else if c.toNat = 0xFB03 then ['f', 'f', 'i'] else if c.toNat = 0xFB04 then ['f', 'f', 'l']
  else if c.toNat = 0xFB05 ∨ c.toNat = 0xFB06 then ['s', 't']
  else [c]

/-- `_alias_key` -/
def aliasKey (value : String) : String :=
  let ersetzt := fun c => if c = 'ä' then 'a' else if c = 'ö' then 'o' else if c = 'ü' then 'u' else c
  String.ofList (((strip value).toList.flatMap casefold).map ersetzt)

/-- `DIRECTION_ALIASES` with `DIRECTIONS` -/
def directionAliases : List (String × Direction) :=
  [("beide", .both), ("beide richtungen", .both), ("both_directions", .both), ("hinrichtung", .forward),
    ("vorwarts", .forward), ("gegenrichtung", .backward), ("ruckwarts", .backward), ("both", .both), ("forward", .forward),
    ("backward", .backward)]

/-- `normalize_direction` -/
def normalizeDirection (value : Option String) : Except String (Option Direction) :=
  match value.filter fun v => strip v ≠ "" with
  | none => .ok none
  | some v =>
    match directionAliases.lookup (aliasKey v) with
    | some direction => .ok (some direction)
    | none => .error (s!"Unbekannte direction '{v}'. Zulässig: both (Beide Richtungen), forward (Hinrichtung), " ++
        "backward (Gegenrichtung).")

/-- `value.strip() or None` of a text. -/
def stripped (value : Option String) : Option String := (value.map strip).filter (· ≠ "")

end Normalisieren

section Validieren

variable {κ ι β : Type} (geo : Geo κ ι β)

structure Geprueft (κ : Type) where
  title : String
  validFrom : Zeit
  validUntil : Option Zeit
  data : SectionData κ

/-- The direction of `validate_closure_data`. -/
def gepruefteRichtung (value : Option (Option String)) (existing : Option Direction) : Except String (Option Direction) :=
  match value with
  | some value => normalizeDirection value
  | none => .ok existing

/-- The title of `validate_closure_data`; that of an existing closure is only
checked where it is given. -/
def gepruefterTitel (title : Option String) (existing : Option (RoadClosure κ β)) : Except String String :=
  match title, existing with
  | none, some closure => .ok closure.title
  | none, none => .error "Titel ist erforderlich und darf höchstens 200 Zeichen lang sein."
  | some text, _ =>
    if strip text = "" ∨ 200 < (strip text).length then
      .error "Titel ist erforderlich und darf höchstens 200 Zeichen lang sein."
    else .ok (strip text)

/-- The quality of `validate_closure_data`. -/
def gepruefteQualitaet (value : Option (Option String)) (existing : Option GeometryQuality) :
    Except String (Option GeometryQuality) :=
  match value with
  | none => .ok existing
  | some none => .ok none
  | some (some text) => do
    let quality ← demand (GeometryQuality.ofText? text) "Ungültige Geometriequalität."
    return some quality

/-- The geometry of `validate_closure_data`; a stored one is checked again. -/
def gepruefteGeometrie (value : Option (Option ι)) (existing : Option (Geometrie κ)) : Except String (Option (Geometrie κ)) :=
  match value with
  | some none => .ok none
  | some (some raw) => if geo.leer raw then .ok none else some <$> geo.validate raw
  | none =>
    match existing with
    | none => .ok none
    | some geom => some <$> geo.validate (geo.text geom)

/-- The status of `validate_closure_data`. -/
def gepruefterStatus (value : Option (Option String)) (existing : Option GeometryStatus) (geometrie : Option (Geometrie κ)) :
    Except String GeometryStatus :=
  if geometrie = none then .ok .missing
  else
    match value, existing with
    | none, none => .ok .ok
    | none, some status => .ok (if status = .missing then .ok else status)
    | some text, _ => demand (text.bind GeometryStatus.ofText?) "Ungültiger Geometriestatus."

/-- `validate_closure_data`, partial where there is a closure. -/
def validateClosureData (data : Daten ι) (existing : Option (RoadClosure κ β)) : Except String (Geprueft κ) := do
  let direction ← gepruefteRichtung data.direction (existing.bind (·.direction))
  let title ← gepruefterTitel data.title existing
  let validFrom ← demand (data.validFrom.or (existing.map (·.validFrom))) "Beginn muss ein naiver UTC-Zeitpunkt sein."
  let validUntil := data.validUntil.getD (existing.bind (·.validUntil))
  require (∀ ende ∈ validUntil, validFrom < ende) "Ende muss nach dem Beginn liegen."
  let geometryQuality ← gepruefteQualitaet data.geometryQuality (existing.bind (·.geometryQuality))
  let geometryMetaJson := data.geometryMetaJson.getD (existing.bind (·.geometryMetaJson))
  require (∀ text ∈ geometryMetaJson, text.length < 20000 ∧ geo.istJson text = true) "Ungültige Geometriemetadaten."
  let geometryGeojson ← gepruefteGeometrie geo data.geometryGeojson (existing.bind (·.geometryGeojson))
  let street := stripped (data.street.getD (existing.bind (·.street)))
  require (street ≠ none ∨ geometryGeojson ≠ none) "Mindestens Straße oder Geometrie ist erforderlich."
  let geometryStatus ← gepruefterStatus data.geometryStatus (existing.map (·.geometryStatus)) geometryGeojson
  return { title, validFrom, validUntil, data := {
    street
    fromText := stripped (data.fromText.getD (existing.bind (·.fromText)))
    toText := stripped (data.toText.getD (existing.bind (·.toText)))
    direction, geometryGeojson, geometryStatus, geometryQuality, geometryMetaJson } }

/-- `_validate_sections` -/
def validateSections (now : Zeit) (sections : List (Daten ι)) : Except String (List (SectionData κ)) :=
  sections.mapM fun section' => do
    require (∀ value ∈ section'.street.join, (strip value).length ≤ 200) "Ungültiger Wert für street."
    require (∀ value ∈ section'.fromText.join, (strip value).length ≤ 200) "Ungültiger Wert für from_text."
    require (∀ value ∈ section'.toText.join, (strip value).length ≤ 200) "Ungültiger Wert für to_text."
    let keinAlt : Option (RoadClosure κ β) := none
    let values ← validateClosureData geo
      { section' with title := some "Abschnitt", validFrom := some now, validUntil := none } keinAlt
    return values.data

end Validieren

section Aggregat

variable {κ ι β : Type} (geo : Geo κ ι β)

/-- `min(qualities, key=rank)` -/
def minQuality : List GeometryQuality → Option GeometryQuality
  | [] => none
  | quality :: rest => some (rest.foldl (fun best q => if q.rank < best.rank then q else best) quality)

/-- The street of `_aggregate_sections`. -/
def aggregateStreet (streets : List String) : String :=
  let street := String.intercalate ", " streets
  if 200 < street.length then
    let first := streets.take 2
    let suffix := s!" +{streets.length - first.length}"
    clip (200 - suffix.length) (String.intercalate ", " first) ++ suffix
  else street

/-- `sorted(closure.sections, key=lambda item: item.position)` -/
def sortedSections (sections : List (RoadClosureSection κ)) : List (RoadClosureSection κ) :=
  sections.insertionSort fun a b => a.position ≤ b.position

/-- What `_aggregate_sections` computes from the sections. -/
def aggregate (unsorted : List (RoadClosureSection κ)) : SectionData κ :=
  let sections := sortedSections unsorted
  let streets := ((sections.filterMap (·.street)).filter (· ≠ "")).eraseDups
  let geoms := sections.filterMap (·.geometryGeojson)
  let einziger := if sections.length = 1 then sections.head? else none
  { street := (some (aggregateStreet streets)).filter (· ≠ "")
    fromText := einziger.bind (·.fromText)
    toText := einziger.bind (·.toText)
    direction := einziger.bind (·.direction)
    geometryGeojson := mergeGeometries geo geoms
    geometryStatus :=
      if geoms = [] then .missing
      else if geoms.length = sections.length ∧ sections.all (fun s => s.geometryStatus == .ok) = true then .ok
      else .needsReview
    geometryQuality := minQuality (sections.filterMap (·.geometryQuality))
    geometryMetaJson := einziger.bind (·.geometryMetaJson) }

/-- `_set_bbox` -/
def setBbox (closure : RoadClosure κ β) : RoadClosure κ β :=
  { closure with bbox := closure.geometryGeojson.map geo.bbox }

/-- `_aggregate_sections` -/
def aggregateSections (closure : RoadClosure κ β) : RoadClosure κ β :=
  setBbox geo { closure with toSectionData := aggregate geo closure.sections }

/-- `_sync_single_section` -/
def syncSingleSection (closure : RoadClosure κ β) : RoadClosure κ β :=
  match closure.sections with
  | [] =>
    if closure.street ≠ none ∨ closure.geometryGeojson ≠ none then
      { closure with sections := [{ closure.toSectionData with position := 0 }] }
    else closure
  | [single] => { closure with sections := [{ single with toSectionData := closure.toSectionData }] }
  | _ => closure

/-- The new rows of `_apply_sections`. -/
def nummeriert (values : List (SectionData κ)) : List (RoadClosureSection κ) :=
  values.mapIdx fun position value => { value with position }

/-- `_apply_sections`, with whether anything has changed. -/
def applySections [DecidableEq κ] (closure : RoadClosure κ β) (values : List (SectionData κ)) : RoadClosure κ β × Bool :=
  if (sortedSections closure.sections).map (·.toSectionData) = values then (closure, false)
  else (aggregateSections geo { closure with sections := nummeriert values }, true)

end Aggregat

section Vorgaenge

variable {κ ι β : Type} [DecidableEq κ] (geo : Geo κ ι β)

/-- What an operation leaves of a closure, and whether it has raised. -/
structure Ergebnis (κ β : Type) where
  closure : RoadClosure κ β
  fehler : Option String := none

def streetPasst (closure : RoadClosure κ β) : Prop := ∀ street ∈ closure.street, street.length ≤ 200

instance (closure : RoadClosure κ β) : Decidable (streetPasst closure) := by
  unfold streetPasst
  infer_instance

def Geprueft.sperre (geprueft : Geprueft κ) (id orgId : Nat) : RoadClosure κ β :=
  { geprueft.data with
    id
    orgId := some orgId
    title := geprueft.title
    validFrom := geprueft.validFrom
    validUntil := geprueft.validUntil }

/-- `_section_data` of an aggregate, as arguments. -/
def Daten.mit (data : Daten ι) (aggregiert : SectionData κ) : Daten ι :=
  { data with
    street := some aggregiert.street
    fromText := some aggregiert.fromText
    toText := some aggregiert.toText
    direction := some (aggregiert.direction.map (·.text))
    geometryGeojson := some (aggregiert.geometryGeojson.map geo.text)
    geometryStatus := some (some aggregiert.geometryStatus.text)
    geometryQuality := some (aggregiert.geometryQuality.map (·.text))
    geometryMetaJson := some aggregiert.geometryMetaJson }

/-- `create_closure`, under the next number. -/
def createClosure (orgId : Nat) (now : Zeit) (data : Daten ι) (sections : Option (List (Daten ι))) (id : Nat) :
    Except String (RoadClosure κ β) := do
  let neu : Option (RoadClosure κ β) := none
  match sections with
  | some sections =>
    let values ← validateSections (β := β) geo now sections
    let geprueft ← validateClosureData geo (data.mit geo (aggregate geo (nummeriert values))) neu
    let closure : RoadClosure κ β := geprueft.sperre id orgId
    require (streetPasst closure) "Data too long for column 'street'"
    return aggregateSections geo { closure with sections := nummeriert values }
  | none =>
    let geprueft ← validateClosureData geo data neu
    let closure : RoadClosure κ β := geprueft.sperre id orgId
    require (streetPasst closure) "Data too long for column 'street'"
    return syncSingleSection (setBbox geo closure)

/-- The columns of `update_closure`: those that are given, and the status with
the geometry. -/
def Geprueft.schreibe (geprueft : Geprueft κ) (changes : Daten ι) (closure : RoadClosure κ β) : RoadClosure κ β :=
  { closure with
    title := if changes.title.isSome then geprueft.title else closure.title
    validFrom := if changes.validFrom.isSome then geprueft.validFrom else closure.validFrom
    validUntil := if changes.validUntil.isSome then geprueft.validUntil else closure.validUntil
    street := if changes.street.isSome then geprueft.data.street else closure.street
    fromText := if changes.fromText.isSome then geprueft.data.fromText else closure.fromText
    toText := if changes.toText.isSome then geprueft.data.toText else closure.toText
    direction := if changes.direction.isSome then geprueft.data.direction else closure.direction
    geometryGeojson := if changes.geometryGeojson.isSome then geprueft.data.geometryGeojson else closure.geometryGeojson
    geometryStatus := if changes.geometryGeojson.isSome ∨ changes.geometryStatus.isSome then geprueft.data.geometryStatus
      else closure.geometryStatus
    geometryQuality := if changes.geometryQuality.isSome then geprueft.data.geometryQuality else closure.geometryQuality
    geometryMetaJson := if changes.geometryMetaJson.isSome then geprueft.data.geometryMetaJson
      else closure.geometryMetaJson }

/-- `set(changes) & set(_SECTION_FIELDS)` -/
def Daten.abschnitt (changes : Daten ι) : Bool :=
  changes.street.isSome || changes.fromText.isSome || changes.toText.isSome || changes.direction.isSome ||
    changes.geometryGeojson.isSome || changes.geometryStatus.isSome || changes.geometryQuality.isSome ||
    changes.geometryMetaJson.isSome

/-- `if changed` of `update_closure`. -/
def gezaehlt (closure : RoadClosure κ β) (changed : Bool) : RoadClosure κ β :=
  if changed then { setBbox geo closure with version := closure.version + 1 } else closure

/-- The end of `update_closure`. -/
def abgeschlossen (alt neu : RoadClosure κ β) (sectionsChanged : Bool) : Ergebnis κ β :=
  let changed := sectionsChanged || decide (alt.title ≠ neu.title ∨ alt.validFrom ≠ neu.validFrom ∨
    alt.validUntil ≠ neu.validUntil ∨ alt.toSectionData ≠ neu.toSectionData)
  if streetPasst (gezaehlt geo neu changed) then { closure := gezaehlt geo neu changed }
  else { closure := alt, fehler := some "Data too long for column 'street'" }

/-- `update_closure` -/
def updateClosure (closure : RoadClosure κ β) (now : Zeit) (changes : Daten ι) (sections : Option (List (Daten ι)))
    (expectedVersion : Option Nat) : Ergebnis κ β :=
  if ∃ version ∈ expectedVersion, version ≠ closure.version then
    { closure, fehler := some "Die Sperre wurde inzwischen geändert. Bitte laden Sie sie neu." }
  else
    match sections.mapM (validateSections (β := β) geo now), validateClosureData geo changes (some closure) with
    | .error fehler, _ => { closure, fehler := some fehler }
    | .ok _, .error fehler => { closure, fehler := some fehler }
    | .ok values, .ok geprueft =>
      let geschrieben := geprueft.schreibe changes closure
      match values with
      | none =>
        let synced := if changes.abschnitt then syncSingleSection geschrieben else geschrieben
        abgeschlossen geo closure synced false
      | some values =>
        let (neu, sectionsChanged) := applySections geo geschrieben values
        abgeschlossen geo closure neu sectionsChanged

/-- `set_sections` -/
def setSections (closure : RoadClosure κ β) (now : Zeit) (sections : List (Daten ι)) : Ergebnis κ β :=
  match validateSections (β := β) geo now sections with
  | .error fehler => { closure, fehler := some fehler }
  | .ok values =>
    let (neu, changed) := applySections geo closure values
    if changed then { closure := { neu with version := neu.version + 1 } } else { closure }

/-- The geometry that `confirm_geometry` is given. -/
def gezeichnet (closure : RoadClosure κ β) : Option (Geometrie κ) → RoadClosure κ β
  | some geom => setBbox geo { closure with geometryGeojson := some geom, geometryQuality := some .manuell }
  | none => closure

def bestaetigt (closure : RoadClosure κ β) : RoadClosure κ β :=
  let closure := { closure with geometryStatus := .ok }
  if closure.sections.length = 1 then syncSingleSection closure
  else { closure with
    sections := closure.sections.map fun s => if s.geometryGeojson ≠ none then { s with geometryStatus := .ok } else s }

/-- `confirm_geometry` -/
def confirmGeometry (closure : RoadClosure κ β) (geometry : Option ι) (expectedVersion : Option Nat) : Ergebnis κ β :=
  if ∃ version ∈ expectedVersion, version ≠ closure.version then
    { closure, fehler := some "Die Sperre wurde inzwischen geändert. Bitte laden Sie sie neu." }
  else if geometry.isSome ∧ 1 < closure.sections.length then
    { closure, fehler := some "Die Sperre hat mehrere Abschnitte – Geometrie bitte je Abschnitt bestätigen." }
  else
    match geometry.mapM geo.validate with
    | .error fehler => { closure, fehler := some fehler }
    | .ok gegeben =>
      let neu := gezeichnet geo closure gegeben
      if neu.geometryGeojson = none then {
        closure := neu
        fehler := some ("Keine Geometrie vorhanden – zuerst strassensperre_geometrie_ermitteln oder " ++
          "geometry_geojson übergeben.") }
      else { closure := { bestaetigt neu with version := neu.version + 1 } }

/-- `deactivate_closure` -/
def deactivateClosure (closure : RoadClosure κ β) (now : Zeit) (reason : String) : Ergebnis κ β :=
  if closure.cancelledAt ≠ none then { closure, fehler := some "Die Sperre ist bereits deaktiviert." }
  else { closure := { closure with cancelledAt := some now, cancelReason := some reason, version := closure.version + 1 } }

/-- `reactivate_closure` -/
def reactivateClosure (closure : RoadClosure κ β) : Ergebnis κ β :=
  if closure.cancelledAt = none then { closure, fehler := some "Die Sperre ist nicht deaktiviert." }
  else { closure := { closure with cancelledAt := none, cancelReason := none, version := closure.version + 1 } }

/-- `supersede_closure`, the row of the old closure. -/
def supersedeClosure (old new : RoadClosure κ β) (now : Zeit) : Ergebnis κ β :=
  if old.orgId ≠ new.orgId then
    { closure := old, fehler := some "Die zu ersetzende Sperre gehört nicht zur eigenen Organisation." }
  else if old.cancelledAt ≠ none then
    { closure := old, fehler := some "Die zu ersetzende Sperre ist bereits deaktiviert." }
  else deactivateClosure { old with supersededById := some new.id } now s!"Ersetzt durch Sperre #{new.id}"

/-- `set_shares`, with the partners of the owner: the closure and the rows of
its shares. -/
def setShares (closure : RoadClosure κ β) (shares partner orgIds : List Nat) : Ergebnis κ β × List Nat :=
  match closure.orgId with
  | none => ({ closure, fehler := some "Straßensperre ohne Besitzer-Organisation." }, shares)
  | some owner =>
    let requested := (orgIds.filter (· ≠ owner)).dedup
    if requested.all (partner.contains ·) = false then
      ({ closure, fehler := some "Freigabe nur an Partner-Organisationen möglich." }, shares)
    else
      let added := requested.filter fun org => !shares.contains org
      let removed := shares.filter fun org => !requested.contains org
      if added = [] ∧ removed = [] then ({ closure }, shares)
      else ({ closure := { closure with version := closure.version + 1 } },
        shares.filter (requested.contains ·) ++ added)

end Vorgaenge

section Nummern

variable {κ ι β : Type} {geo : Geo κ ι β}

theorem syncSingleSection_id (closure : RoadClosure κ β) : (syncSingleSection closure).id = closure.id := by
  unfold syncSingleSection
  split
  · split <;> rfl
  · rfl
  · rfl

theorem bestaetigt_id (closure : RoadClosure κ β) : (bestaetigt closure).id = closure.id := by
  unfold bestaetigt
  dsimp only
  split
  · exact syncSingleSection_id _
  · rfl

theorem confirmGeometry_id (geometry : Option ι) (expectedVersion : Option Nat) (closure : RoadClosure κ β) :
    (confirmGeometry geo closure geometry expectedVersion).closure.id = closure.id := by
  unfold confirmGeometry
  split
  · rfl
  · split
    · rfl
    · split
      · rfl
      · next gegeben _ =>
        have drawn : (gezeichnet geo closure gegeben).id = closure.id := by cases gegeben <;> rfl
        dsimp only
        split
        · exact drawn
        · exact (bestaetigt_id _).trans drawn

theorem deactivateClosure_id (now : Zeit) (reason : String) (closure : RoadClosure κ β) :
    (deactivateClosure closure now reason).closure.id = closure.id := by
  unfold deactivateClosure
  split <;> rfl

theorem reactivateClosure_id (closure : RoadClosure κ β) : (reactivateClosure closure).closure.id = closure.id := by
  unfold reactivateClosure
  split <;> rfl

theorem supersedeClosure_id (new : RoadClosure κ β) (now : Zeit) (old : RoadClosure κ β) :
    (supersedeClosure old new now).closure.id = old.id := by
  unfold supersedeClosure
  split
  · rfl
  · split
    · rfl
    · exact deactivateClosure_id now _ _

theorem setShares_id (shares partner orgIds : List Nat) (closure : RoadClosure κ β) :
    (setShares closure shares partner orgIds).1.closure.id = closure.id := by
  unfold setShares
  split
  · rfl
  · dsimp only
    split
    · rfl
    · split <;> rfl

variable [DecidableEq κ]

theorem applySections_id (closure : RoadClosure κ β) (values : List (SectionData κ)) :
    (applySections geo closure values).1.id = closure.id := by
  unfold applySections
  split <;> rfl

theorem abgeschlossen_id (alt neu : RoadClosure κ β) (sectionsChanged : Bool) (same : neu.id = alt.id) :
    (abgeschlossen geo alt neu sectionsChanged).closure.id = alt.id := by
  have counted : ∀ changed, (gezaehlt geo neu changed).id = neu.id := by
    intro changed
    unfold gezaehlt
    split <;> rfl
  unfold abgeschlossen
  dsimp only
  split
  · exact (counted _).trans same
  · rfl

theorem updateClosure_id (now : Zeit) (changes : Daten ι) (sections : Option (List (Daten ι))) (expectedVersion : Option Nat)
    (closure : RoadClosure κ β) : (updateClosure geo closure now changes sections expectedVersion).closure.id = closure.id := by
  unfold updateClosure
  split
  · rfl
  · split
    · rfl
    · rfl
    · dsimp only
      split
      · refine abgeschlossen_id _ _ _ ?_
        split
        · exact syncSingleSection_id _
        · rfl
      · exact abgeschlossen_id _ _ _ (applySections_id _ _)

theorem setSections_id (now : Zeit) (sections : List (Daten ι)) (closure : RoadClosure κ β) :
    (setSections geo closure now sections).closure.id = closure.id := by
  unfold setSections
  split
  · rfl
  · dsimp only
    split
    · exact applySections_id _ _
    · rfl

end Nummern

section System

variable {κ ι β : Type} [DecidableEq κ] (geo : Geo κ ι β)

structure Welt (κ β : Type) where
  sperren : Keyed (RoadClosure.id : RoadClosure κ β → Nat)
  shares : Nat → List Nat := fun _ => []

inductive Aktion (ι : Type) where
  | create (orgId : Nat) (now : Zeit) (data : Daten ι) (sections : Option (List (Daten ι)))
  | update (id : Nat) (now : Zeit) (changes : Daten ι) (sections : Option (List (Daten ι))) (expectedVersion : Option Nat)
  | setSections (id : Nat) (now : Zeit) (sections : List (Daten ι))
  | confirm (id : Nat) (geometry : Option ι) (expectedVersion : Option Nat)
  | deactivate (id : Nat) (now : Zeit) (reason : String)
  | reactivate (id : Nat)
  | supersede (old new : Nat) (now : Zeit)
  | setShares (id : Nat) (partner orgIds : List Nat)

def Welt.aendere (welt : Welt κ β) (id : Nat) (vorgang : RoadClosure κ β → Ergebnis κ β)
    (keeps : ∀ closure, (vorgang closure).closure.id = closure.id) : Welt κ β × Option String :=
  ({ welt with sperren := welt.sperren.modify id (fun closure => (vorgang closure).closure) keeps },
    (welt.sperren.get? id).bind fun closure => (vorgang closure).fehler)

def vollziehe (welt : Welt κ β) : Aktion ι → Welt κ β × Option String
  | .create orgId now data sections =>
    match createClosure geo orgId now data sections (welt.sperren.last + 1) with
    | .ok closure => ({ welt with sperren := welt.sperren.insert (fun id => { closure with id }) fun _ => rfl }, none)
    | .error fehler => (welt, some fehler)
  | .update id now changes sections expectedVersion =>
    welt.aendere id (fun closure => updateClosure geo closure now changes sections expectedVersion)
      (updateClosure_id now changes sections expectedVersion)
  | .setSections id now sections =>
    welt.aendere id (fun closure => Sperre.setSections geo closure now sections) (setSections_id now sections)
  | .confirm id geometry expectedVersion =>
    welt.aendere id (fun closure => confirmGeometry geo closure geometry expectedVersion)
      (confirmGeometry_id geometry expectedVersion)
  | .deactivate id now reason =>
    welt.aendere id (fun closure => deactivateClosure closure now reason) (deactivateClosure_id now reason)
  | .reactivate id => welt.aendere id reactivateClosure reactivateClosure_id
  | .supersede old new now =>
    match welt.sperren.get? new with
    | some new => welt.aendere old (fun closure => supersedeClosure closure new now) (supersedeClosure_id new now)
    | none => (welt, none)
  | .setShares id partner orgIds =>
    let (neu, fehler) := welt.aendere id (fun closure => (Sperre.setShares closure (welt.shares id) partner orgIds).1)
      (setShares_id (welt.shares id) partner orgIds)
    let shares := match welt.sperren.get? id with
      | some closure => (Sperre.setShares closure (welt.shares id) partner orgIds).2
      | none => welt.shares id
    ({ neu with shares := fun other => if other = id then shares else welt.shares other }, fehler)

def step (welt : Welt κ β) (aktion : Aktion ι) : Welt κ β := (vollziehe geo welt aktion).1

end System

end Einsatzcockpit.Sperre
