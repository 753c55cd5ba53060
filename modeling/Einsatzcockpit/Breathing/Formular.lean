import Einsatzcockpit.Lib.Paging
import Einsatzcockpit.Breathing.Validation

namespace Einsatzcockpit.Breathing

/-- What the form reads of the JSON in `incident_change.after_json`. -/
structure AuditDaten where
  erfasstAt : Option Zeit := none
  text : Option String := none
  active : Bool := false
  pressureBar : Option ℚ := none
  nachgetragen : Bool := false

/-- A row of `incident_change`; `after` is missing where the JSON or its time
cannot be read. -/
structure IncidentChange where
  action : String
  entityId : Nat
  ts : Zeit
  after : Option AuditDaten

structure FormularTrupp extends BreathingTroop where
  notes : Option String := none
  formularAudits : List IncidentChange := []

structure Bemerkung where
  ts : Option Zeit
  text : String
  nachgetragen : Bool := false
  deriving DecidableEq

/-- The line marked as late, if it is of the time `ts`. -/
def Bemerkung.nachtragen (ts : Zeit) (remark : Bemerkung) : Bemerkung :=
  if remark.ts = some ts then { remark with nachgetragen := true } else remark

structure Spalte where
  funkrufname : String := ""
  tf : String := ""
  namen : List String := []
  startdruck : String := ""
  entryAt : Option Zeit := none
  ziel : String := ""
  einsatzNr : Option Nat := none
  kontrollen : List (List Bemerkung) := []
  bemerkungen : List Bemerkung := []
  ueberwacher : String := ""
  minuten : List ℚ
  deriving DecidableEq

def blank (fl : Gleitkomma) (settings : AsuewSettings) : Spalte where
  minuten := [fl.rund (settings.erwarteteEinsatzzeitMin / 3), fl.rund (settings.erwarteteEinsatzzeitMin * 2 / 3)]

def isLeader (member : TroopMember) : Bool := decide (member.role = "truppfuehrer")

section Trupp

variable (fl : Gleitkomma) (umgebung : Umgebung) (troop : FormularTrupp)

def startdruck : String :=
  String.intercalate " / " (troop.activeMembers.filterMap fun member =>
    member.startPress.map fun press => (if isLeader member then "TF" else "TM") ++ " " ++ fl.g press)

def zielMeldungen : List Bemerkung :=
  troop.activeMembers.filterMap fun member => member.objectivePressAt.map fun ts =>
    { ts := some ts
      text := "Einsatzziel erreicht: " ++ displayName umgebung member ++
        (member.objectivePress.map fun press => " " ++ fl.g press ++ " bar").getD "" }

def rueckzugMeldung : List Bemerkung :=
  (troop.withdrawAt.map fun ts => { ts := some ts, text := "Rückzug" }).toList

def zurueckMeldung : List Bemerkung :=
  let pressures := String.intercalate " / " (troop.activeMembers.filterMap fun member =>
    member.backPress.map fun press => displayName umgebung member ++ " " ++ fl.g press ++ " bar")
  (troop.backAt.map fun ts =>
    { ts := some ts, text := "Zurück" ++ (if pressures = "" then "" else ": " ++ pressures) }).toList

def druckMeldungen : List Bemerkung :=
  troop.activePressureLogs.map fun log =>
    { ts := some log.ts
      text := (((troop.activeMembers.find? (·.id = log.troopMemberId)).map (displayName umgebung)).getD "Unbekannt") ++
        " " ++ fl.g log.pressureBar ++ " bar" ++ ((orNone log.note).map (" - " ++ ·)).getD ""
      nachgetragen := log.nachgetragen }

def stufenKontrollen (stage : Stufe) : List Bemerkung :=
  ((troop.activeKontrollen.filter (·.stufe = stage)).insertionSort (·.erledigtAt ≤ ·.erledigtAt)).map fun k =>
    { ts := some k.erledigtAt
      text := match k.art with
        | .keinKontakt => "kein Funkkontakt"
        | .funk => (k.niedrigsterDruck.map (fl.g · ++ " bar")).getD ""
      nachgetragen := k.nachgetragen }

def kontaktVerluste : List Bemerkung :=
  (troop.activeKontrollen.filter (·.art = .keinKontakt)).map fun k =>
    { ts := some k.erledigtAt, text := "Funkverlust: kein Funkkontakt", nachgetragen := k.nachgetragen }

def auditText (row : IncidentChange) (after : AuditDaten) : Option String :=
  if row.action = "troop.meldung" then after.text
  else if row.action = "troop.funk_verloren" && after.active then some "Funkverlust"
  else if row.action = "troop.notfall" then some "Notfall"
  else if row.action = "troop.back_pressure_reported" then do
    let member ← troop.activeMembers.find? (·.id = row.entityId)
    let pressure ← after.pressureBar
    pure ("Enddruck: " ++ displayName umgebung member ++ " " ++ fl.g pressure ++ " bar")
  else none

/-- One audit row: `remarks` and `seen` after it. Rows from before the entry
are left out; a late row marks every line of its time. -/
def auditSchritt (state : List Bemerkung × List String) (row : IncidentChange) : List Bemerkung × List String :=
  match row.after with
  | none => state
  | some after =>
    let ts := after.erfasstAt.getD row.ts
    if troop.entryAt.any (ts < ·) then state else
      let told : List Bemerkung × List String := match orNone (auditText fl umgebung troop row after) with
        | some text => (state.1 ++ [⟨some ts, text, after.nachgetragen⟩], row.action :: state.2)
        | none => state
      if after.nachgetragen then (told.1.map (·.nachtragen ts), told.2) else told

def letzteMeldung (seen : List String) : List Bemerkung :=
  match troop.lastMeldungAt, orNone troop.lastMeldungText with
  | some ts, some text => if seen.contains "troop.meldung" then [] else [{ ts := some ts, text }]
  | _, _ => []

def stand (seen : List String) (at_ : Option Zeit) (action label : String) (remarks : List Bemerkung) :
    List Bemerkung :=
  match at_ with
  | none => remarks
  | some ts =>
    if !seen.contains action &&
        !remarks.any (fun remark => remark.ts = some ts && label.toList.isPrefixOf remark.text.toList) then
      remarks ++ [{ ts := some ts, text := label }]
    else remarks

def frueher (a b : Bemerkung) : Bool :=
  match a.ts, b.ts with
  | none, _ => true
  | some _, none => false
  | some x, some y => decide (x ≤ y)

def bemerkungen : List Bemerkung :=
  let own := zielMeldungen fl umgebung troop ++ rueckzugMeldung troop ++ zurueckMeldung fl umgebung troop ++
    druckMeldungen fl umgebung troop ++ kontaktVerluste troop
  let (remarks, seen) := troop.formularAudits.foldl (auditSchritt fl umgebung troop) (own, [])
  let remarks := remarks ++ letzteMeldung troop seen
  let remarks := stand seen troop.funkVerlorenAt "troop.funk_verloren" "Funkverlust" remarks
  let remarks := stand seen troop.notfallAt "troop.notfall" "Notfall" remarks
  let remarks := remarks ++ ((orNone troop.notes).map fun text => { ts := none, text }).toList
  remarks.insertionSort (frueher · ·)

/-- The column of one troop: its first leader stands in `tf`, everyone else in
`namen`. -/
def spalte (settings : AsuewSettings) : Spalte :=
  { blank fl settings with
    funkrufname := (orNone troop.unitName).getD troop.name
    tf := ((troop.activeMembers.find? isLeader).map (displayName umgebung)).getD ""
    namen := (troop.activeMembers.eraseP isLeader).map (displayName umgebung)
    startdruck := startdruck fl troop
    entryAt := troop.entryAt
    ziel := String.intercalate " / " ([troop.taskText, troop.angriffsweg].filterMap orNone)
    einsatzNr := if troop.deployments = [] then none else some ((troop.deployments.map (·.lfdNr)).foldl max 0 + 1)
    kontrollen := [stufenKontrollen fl troop .oneThird, stufenKontrollen fl troop .twoThird]
    bemerkungen := bemerkungen fl umgebung troop
    ueberwacher := troop.ueberwacherName.getD "" }

end Trupp

/-- `column["namen"].extend([""] * (rows - len(column["namen"])))` -/
def Spalte.aufgefuellt (rows : Nat) (column : Spalte) : Spalte :=
  { column with namen := column.namen ++ List.replicate (rows - column.namen.length) "" }

/-- One page: blank columns behind up to three of the result, and name rows
for the largest of them. -/
def seite (fl : Gleitkomma) (settings : AsuewSettings) (columns : List Spalte) : List Spalte :=
  let page := columns ++ List.replicate (3 - columns.length) (blank fl settings)
  let rows := max 2 ((page.map (·.namen.length)).foldl max 0)
  page.map (·.aufgefuellt rows)

def formularSpalten (fl : Gleitkomma) (umgebung : Umgebung) (troops : List FormularTrupp) (settings : AsuewSettings)
    (leer : Bool) : List Spalte :=
  (if leer then [] else troops).map fun troop => spalte fl umgebung troop settings

def asuewFormularSeiten (fl : Gleitkomma) (umgebung : Umgebung) (troops : List FormularTrupp) (settings : AsuewSettings)
    (leer : Bool) : List (List Spalte) :=
  let result := formularSpalten fl umgebung troops settings leer
  let result := if result = [] then [blank fl settings] else result
  (Paging.slices 3 result).map (seite fl settings)

def Spalte.istLeer (fl : Gleitkomma) (settings : AsuewSettings) (column : Spalte) : Bool :=
  decide (column = { blank fl settings with namen := List.replicate column.namen.length "" })

section Spalten

variable {fl : Gleitkomma} {umgebung : Umgebung} {troop : FormularTrupp} {settings : AsuewSettings} {rows : Nat}
  {column : Spalte} {columns : List Spalte}

/-- `column` is the one of `troop`, with empty name rows below its names. -/
def Spalte.Zeigt (fl : Gleitkomma) (umgebung : Umgebung) (settings : AsuewSettings) (column : Spalte)
    (troop : FormularTrupp) : Prop :=
  ∃ leerzeilen, column = { spalte fl umgebung troop settings with
    namen := (spalte fl umgebung troop settings).namen ++ List.replicate leerzeilen "" }

theorem find?_cons_eraseP_perm {α : Type*} {p : α → Bool} {xs : List α} {x : α} (found : xs.find? p = some x) :
    (x :: xs.eraseP p).Perm xs := by
  obtain ⟨holds, before, after, rfl, none⟩ := List.find?_eq_some_iff_append.mp found
  have skipped : ∀ y ∈ before, ¬ p y = true := by simpa using none
  rw [List.eraseP_append_right _ skipped, List.eraseP_cons_of_pos holds]
  exact List.perm_middle.symm

/-- Nobody of the crew is missing in `tf` and `namen` together. -/
theorem namen_vollstaendig :
    ((troop.activeMembers.find? isLeader).toList.map (fun _ => (spalte fl umgebung troop settings).tf) ++
      (spalte fl umgebung troop settings).namen).Perm (troop.activeMembers.map (displayName umgebung)) := by
  cases found : troop.activeMembers.find? isLeader with
  | none =>
    have noLeader : ∀ member ∈ troop.activeMembers, ¬ isLeader member = true := by simpa using found
    simp [spalte, List.eraseP_of_forall_not noLeader]
  | some leader => simpa [spalte, found] using (find?_cons_eraseP_perm found).map (displayName umgebung)

theorem length_aufgefuellt (fits : column.namen.length ≤ rows) : (column.aufgefuellt rows).namen.length = rows := by
  simp [Spalte.aufgefuellt, Nat.add_sub_cancel' fits]

theorem aufgefuellt_zeigt :
    ((spalte fl umgebung troop settings).aufgefuellt rows).Zeigt fl umgebung settings troop := ⟨_, rfl⟩

theorem not_istLeer (shows : column.Zeigt fl umgebung settings troop) : column.istLeer fl settings = false := by
  obtain ⟨leerzeilen, rfl⟩ := shows
  simp [Spalte.istLeer, blank, spalte]

theorem blank_istLeer : ((blank fl settings).aufgefuellt rows).istLeer fl settings = true := by
  simp [Spalte.istLeer, Spalte.aufgefuellt, blank]

def namenszeilen (fl : Gleitkomma) (settings : AsuewSettings) (columns : List Spalte) : Nat :=
  max 2 (((columns ++ List.replicate (3 - columns.length) (blank fl settings)).map (·.namen.length)).foldl max 0)

theorem le_foldl_max {xs : List Nat} {x start : Nat} (member : x ∈ start :: xs) : x ≤ xs.foldl max start := by
  induction xs generalizing start x with
  | nil => simp_all
  | cons y xs ih =>
    rcases List.mem_cons.mp member with rfl | later
    · exact (le_max_left x y).trans (ih (List.mem_cons_self ..))
    · rcases List.mem_cons.mp later with rfl | later
      · exact (le_max_right start x).trans (ih (List.mem_cons_self ..))
      · exact ih (List.mem_cons_of_mem _ later)

theorem seite_eq : seite fl settings columns =
    columns.map (·.aufgefuellt (namenszeilen fl settings columns)) ++
      List.replicate (3 - columns.length) ((blank fl settings).aufgefuellt (namenszeilen fl settings columns)) := by
  simp [seite, namenszeilen]

theorem length_seite (fits : columns.length ≤ 3) : (seite fl settings columns).length = 3 := by
  simp [seite, Nat.add_sub_cancel' fits]

theorem seite_namen (member : column ∈ seite fl settings columns) :
    column.namen.length = namenszeilen fl settings columns := by
  obtain ⟨original, inside, rfl⟩ := List.mem_map.mp member
  have counted : original.namen.length ∈
      (columns ++ List.replicate (3 - columns.length) (blank fl settings)).map (·.namen.length) :=
    List.mem_map_of_mem inside
  exact length_aufgefuellt ((le_foldl_max (List.mem_cons_of_mem 0 counted)).trans (le_max_right _ _))

theorem seite_zeigt (troops : List FormularTrupp) :
    ∃ shown blanks, seite fl settings (troops.map (spalte fl umgebung · settings)) = shown ++ blanks ∧
      List.Forall₂ (Spalte.Zeigt fl umgebung settings) shown troops ∧
      (∀ column ∈ blanks, column.istLeer fl settings = true) ∧ blanks.length = 3 - troops.length := by
  refine ⟨_, _, seite_eq, ?_, ?_, by simp⟩
  · rw [List.map_map, List.forall₂_map_left_iff]
    exact List.forall₂_same.mpr fun troop _ => aufgefuellt_zeigt
  · intro column member
    rw [List.eq_of_mem_replicate member]
    exact blank_istLeer

theorem zeigt_nonblank {shown : List Spalte} {troops : List FormularTrupp}
    (shows : List.Forall₂ (Spalte.Zeigt fl umgebung settings) shown troops) :
    ∀ column ∈ shown, column.istLeer fl settings = false := by
  induction shows with
  | nil => simp
  | cons head _ ih => simpa [not_istLeer head] using ih

theorem seiten_zeigen (gruppen : List (List FormularTrupp)) :
    List.Forall₂ (Spalte.Zeigt fl umgebung settings)
      ((gruppen.map fun gruppe => seite fl settings (gruppe.map (spalte fl umgebung · settings))).flatten.filter
        (!·.istLeer fl settings)) gruppen.flatten := by
  induction gruppen with
  | nil => exact .nil
  | cons gruppe gruppen ih =>
    obtain ⟨shown, blanks, eq, shows, empty, -⟩ := @seite_zeigt fl umgebung settings gruppe
    have kept : shown.filter (!·.istLeer fl settings) = shown :=
      List.filter_eq_self.mpr fun column member => by simp [zeigt_nonblank shows column member]
    have dropped : blanks.filter (!·.istLeer fl settings) = [] :=
      List.filter_eq_nil_iff.mpr fun column member => by simp [empty column member]
    rw [List.map_cons, List.flatten_cons, List.filter_append, eq, List.filter_append, kept, dropped, List.append_nil,
      List.flatten_cons]
    exact List.rel_append shows ih

def gruppen (troops : List FormularTrupp) : List (List FormularTrupp) :=
  if troops = [] then [[]] else Paging.slices 3 troops

end Spalten

section Gruppen

variable {fl : Gleitkomma} {umgebung : Umgebung} {settings : AsuewSettings} {troops gruppe : List FormularTrupp}

theorem flatten_gruppen : (gruppen troops).flatten = troops := by
  unfold gruppen
  split_ifs with empty
  · rw [empty]; rfl
  · exact Paging.flatten_slices (by decide) troops

theorem gruppe_length_le (member : gruppe ∈ gruppen troops) : gruppe.length ≤ 3 := by
  unfold gruppen at member
  split_ifs at member
  · rw [List.mem_singleton.mp member]; decide
  · exact Paging.slices_length_le member

theorem gruppe_full (member : gruppe ∈ (gruppen troops).dropLast) : gruppe.length = 3 := by
  unfold gruppen at member
  split_ifs at member
  · simp at member
  · exact Paging.slices_full (by decide) member

theorem asuewFormularSeiten_eq (leer : Bool) : asuewFormularSeiten fl umgebung troops settings leer =
    (gruppen (if leer then [] else troops)).map fun gruppe =>
      seite fl settings (gruppe.map (spalte fl umgebung · settings)) := by
  generalize printed : (if leer then [] else troops) = troops'
  simp only [asuewFormularSeiten, formularSpalten, printed, gruppen, List.map_eq_nil_iff]
  split_ifs with empty
  · simp [seite, Paging.slices]
  · rw [Paging.slices_map, List.map_map]
    rfl

/-- The form keeps every troop. Its pages have three columns with equally many
name rows; without the blank columns they show the troops in order, each with
its whole crew; and blank columns stand at the end of the last page only. -/
theorem asuewFormularSeiten_vollstaendig (fl : Gleitkomma) (umgebung : Umgebung) (troops : List FormularTrupp)
    (settings : AsuewSettings) (leer : Bool) :
    let seiten := asuewFormularSeiten fl umgebung troops settings leer
    (∀ seite ∈ seiten, seite.length = 3 ∧ ∃ rows, ∀ column ∈ seite, column.namen.length = rows) ∧
    List.Forall₂ (Spalte.Zeigt fl umgebung settings) (seiten.flatten.filter (!·.istLeer fl settings))
      (if leer then [] else troops) ∧
    (∀ troop ∈ troops, ((troop.activeMembers.find? isLeader).toList.map
        (fun _ => (spalte fl umgebung troop settings).tf) ++
      (spalte fl umgebung troop settings).namen).Perm (troop.activeMembers.map (displayName umgebung))) ∧
    (∀ seite ∈ seiten.dropLast, ∀ column ∈ seite, column.istLeer fl settings = false) ∧
    ∀ seite ∈ seiten, ∃ shown blanks, seite = shown ++ blanks ∧
      (∀ column ∈ shown, column.istLeer fl settings = false) ∧
      ∀ column ∈ blanks, column.istLeer fl settings = true := by
  intro seiten
  have eq : seiten = _ := asuewFormularSeiten_eq leer
  refine ⟨fun page member => ?_, ?_, fun troop _ => namen_vollstaendig, fun page member column inside => ?_,
    fun page member => ?_⟩
  · rw [eq] at member
    obtain ⟨gruppe, inside, rfl⟩ := List.mem_map.mp member
    exact ⟨length_seite (by simpa using gruppe_length_le inside), _, fun column => seite_namen⟩
  · have shows := @seiten_zeigen fl umgebung settings (gruppen (if leer then [] else troops))
    rwa [flatten_gruppen, ← eq] at shows
  · rw [eq, ← List.map_dropLast] at member
    obtain ⟨gruppe, early, rfl⟩ := List.mem_map.mp member
    obtain ⟨shown, blanks, split, shows, -, count⟩ := @seite_zeigt fl umgebung settings gruppe
    have none : blanks = [] := List.eq_nil_of_length_eq_zero (by rw [count, gruppe_full early])
    rw [split, none, List.append_nil] at inside
    exact zeigt_nonblank shows column inside
  · rw [eq] at member
    obtain ⟨gruppe, -, rfl⟩ := List.mem_map.mp member
    obtain ⟨shown, blanks, split, shows, empty, -⟩ := @seite_zeigt fl umgebung settings gruppe
    exact ⟨shown, blanks, split, zeigt_nonblank shows, empty⟩

end Gruppen

end Einsatzcockpit.Breathing
