import Mathlib.Data.List.Nodup
import Mathlib.Logic.Function.Basic

/-! The master data of a working copy, `aktualisiere_felder` of `objekt_service.py`, and
the rejection of an external order, `objekt_pflege_service.py`. -/

namespace Einsatzcockpit.Objekt

/-- `OBJEKT_KOPIERBARE_FELDER` -/
def kopierbareFelder : List String :=
  ["name", "vulgoname", "kategorie_id", "strasse", "hausnummer", "plz", "ort", "lat", "lng", "informationen",
    "anfahrtsweg", "kontakt_info_uebung", "kontakt_info_stichworte", "kontakt_info_betreff", "kontakt_info_template",
    "revision_datum"]

inductive Quelle where
  | intern
  | externPflegeauftrag
  deriving DecidableEq

variable {W : Type}

/-- A row of `ObjektChange`. From the JSON of a value its column has the value again. -/
structure ObjektChange (W : Type) where
  feld : String
  before : W
  after : W
  quelle : Quelle

/-- A working copy and its change log, in the order in which it is written. -/
structure Arbeitskopie (W : Type) where
  werte : String → W
  aenderungen : List (ObjektChange W)

structure Schritt (W : Type) where
  quelle : Quelle
  feld : String
  neu : W

/-- A call of `aktualisiere_felder` on the copy. -/
structure Bearbeitung (W : Type) where
  quelle : Quelle
  daten : List (String × W)

def Bearbeitung.schritte (b : Bearbeitung W) : List (Schritt W) := b.daten.map fun (feld, neu) => ⟨b.quelle, feld, neu⟩

section Code

variable [DecidableEq W]

def setzeFeld (kopie : Arbeitskopie W) (s : Schritt W) : Arbeitskopie W :=
  let alt := kopie.werte s.feld
  if alt = s.neu then kopie
  else
    { werte := Function.update kopie.werte s.feld s.neu
      aenderungen := kopie.aenderungen ++ [{ feld := s.feld, before := alt, after := s.neu, quelle := s.quelle }] }

def aktualisiereFelder (kopie : Arbeitskopie W) (b : Bearbeitung W) : Arbeitskopie W := b.schritte.foldl setzeFeld kopie

/-- `verwirf_pflegeauftrag_aenderungen`: the copy, unless it is discarded. -/
def verwirfPflegeauftragAenderungen (kopie : Arbeitskopie W) : Option (Arbeitskopie W) :=
  if kopie.aenderungen.all (·.quelle = .externPflegeauftrag) then none
  else
    let revert := kopierbareFelder.filterMap fun feld =>
      (kopie.aenderungen.find? fun a => a.feld = feld && a.quelle = .externPflegeauftrag).map fun a => (feld, a.before)
    some (aktualisiereFelder kopie ⟨.intern, revert⟩)

def bearbeitet (werte : String → W) (edits : List (Bearbeitung W)) : Arbeitskopie W :=
  edits.foldl aktualisiereFelder ⟨werte, []⟩

/-- After the rejection the copy is as the internal edits alone would have made it, or
it is gone and there was none. -/
def Zurueckgenommen (werte : String → W) (edits : List (Bearbeitung W)) : Prop :=
  match verwirfPflegeauftragAenderungen (bearbeitet werte edits) with
  | none => ∀ b ∈ edits, b.quelle = .intern → b.daten = []
  | some kopie => ∀ feld ∈ kopierbareFelder,
      kopie.werte feld = (bearbeitet werte (edits.filter (·.quelle = .intern))).werte feld

def protokoll : (String → W) → List (Schritt W) → List (ObjektChange W)
  | _, [] => []
  | werte, s :: rest =>
    (if werte s.feld = s.neu then [] else [⟨s.feld, werte s.feld, s.neu, s.quelle⟩]) ++
      protokoll (Function.update werte s.feld s.neu) rest

/-- The first external edit that changes the field: the values before it, and the edits after it. -/
def ersteFremde (feld : String) : (String → W) → List (Schritt W) → Option ((String → W) × List (Schritt W))
  | _, [] => none
  | werte, s :: rest =>
    if s.feld = feld ∧ s.quelle = .externPflegeauftrag ∧ werte feld ≠ s.neu then some (werte, rest)
    else ersteFremde feld (Function.update werte s.feld s.neu) rest

end Code

def stand : (String → W) → List (Schritt W) → String → W
  | werte, [] => werte
  | werte, s :: rest => stand (Function.update werte s.feld s.neu) rest

def intern (schritte : List (Schritt W)) : List (Schritt W) := schritte.filter (·.quelle = .intern)

section Stand

variable {werte werte' : String → W} {schritte : List (Schritt W)} {feld : String}

theorem stand_congr (same : werte feld = werte' feld) : stand werte schritte feld = stand werte' schritte feld := by
  induction schritte generalizing werte werte' with
  | nil => exact same
  | cons s rest ih =>
    refine ih ?_
    by_cases here : feld = s.feld
    · rw [here, Function.update_self, Function.update_self]
    · rw [Function.update_of_ne here, Function.update_of_ne here, same]

theorem stand_of_notMem (other : ∀ s ∈ schritte, s.feld ≠ feld) : stand werte schritte feld = werte feld := by
  induction schritte generalizing werte with
  | nil => rfl
  | cons s rest ih =>
    rw [stand]
    refine (ih fun s' member => other s' (List.mem_cons_of_mem _ member)).trans ?_
    exact Function.update_of_ne (other s (List.mem_cons_self ..)).symm ..

theorem stand_filterMap {felder : List String} (nodup : felder.Nodup) (member : feld ∈ felder) (g : String → Option W) :
    stand werte (felder.filterMap fun f => (g f).map fun w => ⟨.intern, f, w⟩) feld = (g feld).getD (werte feld) := by
  induction felder generalizing werte with
  | nil => cases member
  | cons f rest ih =>
    obtain ⟨outside, nodup⟩ := List.nodup_cons.mp nodup
    rw [List.filterMap_cons]
    rcases List.mem_cons.mp member with rfl | later
    · have others : ∀ s ∈ rest.filterMap (fun f => (g f).map fun w => (⟨.intern, f, w⟩ : Schritt W)), s.feld ≠ feld := by
        intro s isIn same
        obtain ⟨f, inside, made⟩ := List.mem_filterMap.mp isIn
        obtain ⟨w, -, rfl⟩ := Option.map_eq_some_iff.mp made
        exact outside (same ▸ inside)
      cases value : g feld with
      | none => exact stand_of_notMem others
      | some w => exact (stand_of_notMem others).trans (Function.update_self ..)
    · have other : feld ≠ f := fun same => outside (same ▸ later)
      cases value : g f with
      | none => exact ih nodup later
      | some w =>
        refine (ih nodup later).trans ?_
        rw [Function.update_of_ne other]

variable [DecidableEq W]

theorem foldl_setzeFeld (kopie : Arbeitskopie W) (schritte : List (Schritt W)) :
    schritte.foldl setzeFeld kopie = ⟨stand kopie.werte schritte, kopie.aenderungen ++ protokoll kopie.werte schritte⟩ := by
  induction schritte generalizing kopie with
  | nil => rw [protokoll, List.append_nil]; rfl
  | cons s rest ih =>
    rw [List.foldl_cons, ih, stand, protokoll]
    by_cases same : kopie.werte s.feld = s.neu
    · rw [setzeFeld, if_pos same, if_pos same, ← same, Function.update_eq_self, List.nil_append]
    · rw [setzeFeld, if_neg same, if_neg same, List.append_assoc]

theorem bearbeitet_eq (werte : String → W) (edits : List (Bearbeitung W)) :
    bearbeitet werte edits = ⟨stand werte (edits.flatMap (·.schritte)), protokoll werte (edits.flatMap (·.schritte))⟩ := by
  have flat : bearbeitet werte edits = (edits.flatMap (·.schritte)).foldl setzeFeld ⟨werte, []⟩ := by
    rw [List.foldl_flatMap]
    rfl
  rw [flat, foldl_setzeFeld]
  rfl

def fremd (feld : String) (a : ObjektChange W) : Bool := a.feld = feld && a.quelle = .externPflegeauftrag

theorem stand_intern_cons {s : Schritt W} (rest : List (Schritt W))
    (skip : ¬ (s.feld = feld ∧ s.quelle = .externPflegeauftrag ∧ werte feld ≠ s.neu)) (same : werte feld = werte' feld) :
    (∃ next, Function.update werte s.feld s.neu feld = next feld ∧ stand werte' (intern (s :: rest)) = stand next (intern rest)) ∧
      (protokoll werte (s :: rest)).find? (fremd feld) = (protokoll (Function.update werte s.feld s.neu) rest).find? (fremd feld) := by
  constructor
  · cases quelle : s.quelle with
    | intern =>
      refine ⟨Function.update werte' s.feld s.neu, ?_, by simp [intern, quelle, stand]⟩
      by_cases here : feld = s.feld
      · rw [here, Function.update_self, Function.update_self]
      · rw [Function.update_of_ne here, Function.update_of_ne here, same]
    | externPflegeauftrag =>
      refine ⟨werte', ?_, by simp [intern, quelle]⟩
      by_cases here : s.feld = feld
      · have kept : werte feld = s.neu := not_not.mp fun differs => skip ⟨here, quelle, differs⟩
        rw [here, Function.update_self, ← kept, same]
      · rw [Function.update_of_ne (Ne.symm here), same]
  · rw [protokoll, List.find?_append]
    split
    · rfl
    · next differs =>
      have none : fremd feld ⟨s.feld, werte s.feld, s.neu, s.quelle⟩ = false := by
        by_contra isFremd
        obtain ⟨here, quelle⟩ : s.feld = feld ∧ s.quelle = .externPflegeauftrag := by simpa [fremd] using isFremd
        exact skip ⟨here, quelle, here ▸ differs⟩
      rw [List.find?_singleton, none]
      rfl

theorem stand_intern_of_none (none : ersteFremde feld werte schritte = none) (same : werte feld = werte' feld) :
    stand werte schritte feld = stand werte' (intern schritte) feld ∧
      (protokoll werte schritte).find? (fremd feld) = Option.none := by
  induction schritte generalizing werte werte' with
  | nil => exact ⟨same, rfl⟩
  | cons s rest ih =>
    rw [ersteFremde] at none
    split at none
    · cases none
    · next skip =>
      obtain ⟨⟨next, equal, goesOn⟩, log⟩ := stand_intern_cons rest skip same
      rw [goesOn, log]
      exact ih none equal

theorem stand_intern_of_some {v : String → W} {later : List (Schritt W)}
    (first : ersteFremde feld werte schritte = some (v, later)) (same : werte feld = werte' feld) :
    stand werte' (intern schritte) feld = stand v (intern later) feld ∧
      ((protokoll werte schritte).find? (fremd feld)).map (·.before) = some (v feld) := by
  induction schritte generalizing werte werte' with
  | nil => cases first
  | cons s rest ih =>
    rw [ersteFremde] at first
    split at first
    · next change =>
      obtain ⟨here, quelle, differs⟩ := change
      obtain ⟨rfl, rfl⟩ := Prod.mk.inj (Option.some.inj first)
      refine ⟨?_, ?_⟩
      · have skipped : intern (s :: rest) = intern rest := by simp [intern, quelle]
        rw [skipped]
        exact stand_congr same.symm
      · rw [protokoll, if_neg (here ▸ differs)]
        simp [fremd, here, quelle]
    · next skip =>
      obtain ⟨⟨next, equal, goesOn⟩, log⟩ := stand_intern_cons rest skip same
      rw [goesOn, log]
      exact ih first equal

theorem verwirf_feld {kopie : Arbeitskopie W} (member : feld ∈ kopierbareFelder)
    (kept : verwirfPflegeauftragAenderungen ⟨werte, protokoll werte' schritte⟩ = some kopie) :
    kopie.werte feld = (((protokoll werte' schritte).find? (fremd feld)).map (·.before)).getD (werte feld) := by
  unfold verwirfPflegeauftragAenderungen at kept
  split at kept
  · cases kept
  · obtain rfl := Option.some.inj kept
    have steps : (⟨.intern, kopierbareFelder.filterMap fun f => ((protokoll werte' schritte).find? (fremd f)).map fun a =>
        (f, a.before)⟩ : Bearbeitung W).schritte = kopierbareFelder.filterMap fun f =>
          (((protokoll werte' schritte).find? (fremd f)).map (·.before)).map fun w => ⟨.intern, f, w⟩ := by
      simp [Bearbeitung.schritte, List.map_filterMap, Function.comp_def]
    dsimp only [aktualisiereFelder]
    rw [foldl_setzeFeld]
    exact steps ▸ stand_filterMap (by decide) member _

theorem verwirf_eq_none : verwirfPflegeauftragAenderungen ⟨werte, protokoll werte' schritte⟩ = none ↔
    ¬ ∃ a ∈ protokoll werte' schritte, a.quelle = .intern := by
  have either : ∀ q : Quelle, q = .externPflegeauftrag ↔ q ≠ .intern := by
    intro q
    cases q <;> decide
  unfold verwirfPflegeauftragAenderungen
  split
  · next all =>
    simp only [List.all_eq_true, decide_eq_true_eq, either] at all
    exact iff_of_true rfl fun ⟨a, member, isIntern⟩ => all a member isIntern
  · next some_ =>
    simp only [List.all_eq_true, decide_eq_true_eq, either] at some_
    refine iff_of_false nofun fun none => some_ fun a member isIntern => none ⟨a, member, isIntern⟩

theorem protokoll_quelle (all : ∀ s ∈ schritte, s.quelle = .externPflegeauftrag) :
    ∀ a ∈ protokoll werte schritte, a.quelle = .externPflegeauftrag := by
  induction schritte generalizing werte with
  | nil => exact nofun
  | cons s rest ih =>
    intro a member
    rcases List.mem_append.mp member with here | later
    · split at here
      · cases here
      · rw [List.mem_singleton.mp here]
        exact all s (List.mem_cons_self ..)
    · exact ih (fun s' inside => all s' (List.mem_cons_of_mem _ inside)) a later

theorem zurueckgenommen_iff (werte : String → W) (edits : List (Bearbeitung W)) :
    Zurueckgenommen werte edits ↔
      (∀ s ∈ edits.flatMap (·.schritte), s.quelle = .externPflegeauftrag) ∨
      (∃ a ∈ protokoll werte (edits.flatMap (·.schritte)), a.quelle = .intern) ∧
        ∀ feld ∈ kopierbareFelder, ∀ v later, ersteFremde feld werte (edits.flatMap (·.schritte)) = some (v, later) →
          stand v (intern later) feld = v feld := by
  have alone : (edits.filter (·.quelle = .intern)).flatMap (·.schritte) = intern (edits.flatMap (·.schritte)) := by
    rw [intern, List.filter_flatMap]
    induction edits with
    | nil => rfl
    | cons b rest ih =>
      rw [List.flatMap_cons, ← ih]
      cases quelle : b.quelle <;> simp [quelle, Bearbeitung.schritte, List.filter_map, Function.comp_def]
  have external : (∀ b ∈ edits, b.quelle = .intern → b.daten = []) ↔
      ∀ s ∈ edits.flatMap (·.schritte), s.quelle = .externPflegeauftrag := by
    simp only [List.forall_mem_flatMap, Bearbeitung.schritte, List.forall_mem_map]
    refine forall₂_congr fun b _ => ?_
    cases b.quelle <;> simp [List.eq_nil_iff_forall_not_mem]
  generalize isSteps : edits.flatMap (·.schritte) = schritte at alone external ⊢
  rw [Zurueckgenommen, bearbeitet_eq, bearbeitet_eq, alone, isSteps]
  cases rejected : verwirfPflegeauftragAenderungen ⟨stand werte schritte, protokoll werte schritte⟩ with
  | none =>
    dsimp only
    have gone := verwirf_eq_none.mp rejected
    rw [external]
    exact ⟨Or.inl, fun condition => condition.resolve_right fun kept => gone kept.1⟩
  | some kopie =>
    dsimp only
    have kept : ∃ a ∈ protokoll werte schritte, a.quelle = .intern := by
      by_contra gone
      rw [verwirf_eq_none.mpr gone] at rejected
      cases rejected
    have some_ : ¬ ∀ s ∈ schritte, s.quelle = .externPflegeauftrag := by
      intro all
      obtain ⟨a, member, isIntern⟩ := kept
      rw [protokoll_quelle all a member] at isIntern
      cases isIntern
    rw [or_iff_right some_, and_iff_right kept]
    refine forall₂_congr fun feld member => ?_
    rw [verwirf_feld member rejected]
    cases first : ersteFremde feld werte schritte with
    | none =>
      obtain ⟨same, log⟩ := stand_intern_of_none first rfl
      rw [log, same]
      exact iff_of_true rfl nofun
    | some found =>
      obtain ⟨v, later⟩ := found
      obtain ⟨same, log⟩ := stand_intern_of_some first rfl
      rw [log, same]
      constructor
      · rintro equal _ _ ⟨⟩
        exact equal.symm
      · exact fun condition => (condition v later rfl).symm

end Stand

theorem zurueckgenommen_verfehlt : ¬ ∀ (werte : String → String) (edits : List (Bearbeitung String)), Zurueckgenommen werte edits := by
  intro always
  have lost := always (fun _ => "Alt") [⟨.externPflegeauftrag, [("name", "Extern")]⟩, ⟨.intern, [("name", "Intern")]⟩]
  exact absurd (lost "name" (by decide)) (by decide)

end Einsatzcockpit.Objekt
