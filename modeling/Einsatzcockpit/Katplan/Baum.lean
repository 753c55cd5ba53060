import Einsatzcockpit.Lib.Ancestry
import Mathlib.Data.Prod.Lex
import Mathlib.Data.String.Basic
import Mathlib.Data.List.Sort

/-! The sections of a released plan as a tree, `katplan_freigabe_service.py`. -/

namespace Einsatzcockpit.Katplan

open Ancestry Relation

section Definitionen

structure Abschnitt where
  id : Nat
  parentId : Option Nat
  sort : Int
  deriving DecidableEq

structure VersionElement where
  elementUuid : String
  abschnittId : Option Nat
  sort : Int
  vertraulich : Bool := false
  deriving DecidableEq

structure Knoten where
  abschnitt : Abschnitt
  kinder : List Nat := []
  elemente : List VersionElement := []
  deriving DecidableEq

/-- The nodes, the roots among them, and the elements of no section. -/
structure Baum where
  knoten : List Knoten
  wurzeln : List Nat := []
  ohne : List VersionElement := []
  deriving DecidableEq

def finde (abschnitte : List Abschnitt) (id : Nat) : Option Abschnitt := abschnitte.find? (·.id = id)

theorem weniger_offen {abschnitte : List Abschnitt} {parent : Option Nat} {gesehen : List Nat} {knoten : Abschnitt}
    (found : parent.bind (finde abschnitte) = some knoten) (new : knoten.id ∉ gesehen) :
    (abschnitte.filter (·.id ∉ knoten.id :: gesehen)).length < (abschnitte.filter (·.id ∉ gesehen)).length := by
  obtain ⟨id, -, isKnoten⟩ := Option.bind_eq_some_iff.mp found
  have shrinks : (abschnitte.filter (·.id ∉ knoten.id :: gesehen)) = (abschnitte.filter (·.id ∉ gesehen)).filter (·.id ≠ knoten.id) := by
    rw [List.filter_filter]
    refine List.filter_congr fun a _ => ?_
    rw [← Bool.decide_and, decide_eq_decide, List.mem_cons, not_or]
  rw [shrinks]
  refine List.length_filter_lt_length_iff_exists.mpr ⟨knoten, List.mem_filter.mpr ⟨?_, decide_eq_true new⟩, by simp⟩
  exact List.mem_of_find?_eq_some isKnoten

/-- The loop over the ancestors: it ends with a parent that does not exist, or with one
that has been seen. -/
def steigeAuf (abschnitte : List Abschnitt) (parent : Option Nat) (gesehen : List Nat) : Option Nat × List Nat :=
  match _found : parent.bind (finde abschnitte) with
  | none => (parent, gesehen)
  | some knoten =>
    if _seen : knoten.id ∈ gesehen then (parent, gesehen)
    else steigeAuf abschnitte knoten.parentId (knoten.id :: gesehen)
  termination_by (abschnitte.filter (·.id ∉ gesehen)).length
  decreasing_by exact weniger_offen _found _seen

def haengtUnter (abschnitte : List Abschnitt) (a : Abschnitt) : Option Nat :=
  let (parent, gesehen) := steigeAuf abschnitte a.parentId [a.id]
  a.parentId.filter fun p => (finde abschnitte p).isSome ∧ parent.all (· ∉ gesehen)

def Baum.kind (p id : Nat) (baum : Baum) : Baum :=
  { baum with knoten := baum.knoten.map fun k => if k.abschnitt.id = p then { k with kinder := k.kinder ++ [id] } else k }

def Baum.haenge (abschnitte : List Abschnitt) (baum : Baum) (a : Abschnitt) : Baum :=
  match haengtUnter abschnitte a with
  | some p => baum.kind p a.id
  | none => { baum with wurzeln := baum.wurzeln ++ [a.id] }

def Baum.lege (mitVertraulichen : Bool) (baum : Baum) (e : VersionElement) : Baum :=
  if mitVertraulichen || !e.vertraulich then
    match e.abschnittId.bind (finde (baum.knoten.map (·.abschnitt))) with
    | some a => { baum with knoten := baum.knoten.map fun k =>
        if k.abschnitt.id = a.id then { k with elemente := k.elemente ++ [e] } else k }
    | none => { baum with ohne := baum.ohne ++ [e] }
  else baum

/-- `version_baum` -/
def versionBaum (abschnitte : List Abschnitt) (elemente : List VersionElement) (mitVertraulichen : Bool) : Baum :=
  let abschnitte := abschnitte.mergeSort fun a b => toLex (a.sort, a.id) ≤ toLex (b.sort, b.id)
  let elemente := elemente.mergeSort fun a b => toLex (a.sort, a.elementUuid) ≤ toLex (b.sort, b.elementUuid)
  elemente.foldl (Baum.lege mitVertraulichen) (abschnitte.foldl (Baum.haenge abschnitte) { knoten := abschnitte.map ({ abschnitt := · }) })

def Baum.knoten? (baum : Baum) (id : Nat) : Option Knoten := baum.knoten.find? (·.abschnitt.id = id)

def Baum.kinder (baum : Baum) (id : Nat) : List Nat := ((baum.knoten? id).map (·.kinder)).getD []

/-- The nodes that are reached from the roots, each as often as it is reached. -/
def Baum.erreicht (baum : Baum) (tiefe : Nat) : List Knoten := (visit baum.kinder tiefe baum.wurzeln).filterMap baum.knoten?

def eltern (abschnitte : List Abschnitt) (id : Nat) : Option Nat :=
  ((finde abschnitte id).bind (·.parentId)).filter fun p => (finde abschnitte p).isSome

end Definitionen

section Aufstieg

variable {abschnitte : List Abschnitt} {a : Abschnitt} {id p : Nat}

theorem finde_id (found : finde abschnitte id = some a) : a.id = id := by simpa using List.find?_some found

theorem mem_of_finde (found : finde abschnitte id = some a) : a ∈ abschnitte := List.mem_of_find?_eq_some found

theorem finde_eq_some (eindeutig : (abschnitte.map (·.id)).Nodup) : finde abschnitte id = some a ↔ a ∈ abschnitte ∧ a.id = id := by
  constructor
  · exact fun found => ⟨mem_of_finde found, finde_id found⟩
  · rintro ⟨member, rfl⟩
    cases found : finde abschnitte a.id with
    | none => exact absurd (List.find?_eq_none.mp found a member) (by simp)
    | some b => rw [List.inj_on_of_nodup_map eindeutig (mem_of_finde found) member (finde_id found)]

theorem eltern_eq_some : eltern abschnitte id = some p ↔
    ∃ a, finde abschnitte id = some a ∧ a.parentId = some p ∧ (finde abschnitte p).isSome = true := by
  rw [eltern, Option.filter_eq_some_iff, Option.bind_eq_some_iff]
  constructor
  · rintro ⟨⟨a, found, parent⟩, exists_⟩
    exact ⟨a, found, parent, exists_⟩
  · rintro ⟨a, found, parent, exists_⟩
    exact ⟨⟨a, found, parent⟩, exists_⟩

variable {knoten : Abschnitt} {parent : Option Nat} {gesehen : List Nat}

theorem schritt {l : Abschnitt} (isL : finde abschnitte l.id = some l) (above : l.parentId = parent)
    (found : parent.bind (finde abschnitte) = some knoten) : eltern abschnitte l.id = some knoten.id := by
  obtain ⟨id, isParent, isKnoten⟩ := Option.bind_eq_some_iff.mp found
  obtain rfl := finde_id isKnoten
  exact eltern_eq_some.mpr ⟨l, isL, above.trans isParent, by rw [isKnoten]; rfl⟩

theorem steigeAuf_ende (missing : parent.bind (finde abschnitte) = none) :
    steigeAuf abschnitte parent gesehen = (parent, gesehen) := by
  rw [steigeAuf, missing]

theorem steigeAuf_gesehen
    (found : parent.bind (finde abschnitte) = some knoten) (again : knoten.id ∈ gesehen) :
    steigeAuf abschnitte parent gesehen = (parent, gesehen) := by
  rw [steigeAuf, found]
  exact dif_pos again

theorem steigeAuf_weiter
    (found : parent.bind (finde abschnitte) = some knoten) (new : knoten.id ∉ gesehen) :
    steigeAuf abschnitte parent gesehen = steigeAuf abschnitte knoten.parentId (knoten.id :: gesehen) := by
  rw [steigeAuf, found]
  exact dif_neg new

/-- The loop ends with a parent that it has seen just if the chain runs into a cycle:
`l` is the last node it has seen. -/
theorem steigeAuf_iff {start : Nat} {l : Abschnitt} (isL : finde abschnitte l.id = some l)
    (above : l.parentId = parent) (chain : ReflTransGen (Step (eltern abschnitte)) start l.id)
    (seen : ∀ s ∈ gesehen, (finde abschnitte s).isSome = true ∧ ReflTransGen (Step (eltern abschnitte)) s l.id) :
    (steigeAuf abschnitte parent gesehen).1.all (· ∉ (steigeAuf abschnitte parent gesehen).2) = true ↔
      ¬ Cyclic (eltern abschnitte) start := by
  induction parent, gesehen using steigeAuf.induct abschnitte generalizing l with
  | case1 parent gesehen missing =>
    have last : eltern abschnitte l.id = none := by
      rw [Option.eq_none_iff_forall_ne_some]
      intro p toP
      obtain ⟨a, isA, isP, exists_⟩ := eltern_eq_some.mp toP
      cases isL.symm.trans isA
      rw [← above, isP, Option.bind_some] at missing
      rw [missing] at exists_
      cases exists_
    rw [steigeAuf_ende missing]
    refine iff_of_true ?_ (not_cyclic_of_end chain last)
    cases parent with
    | none => rfl
    | some p =>
      refine decide_eq_true fun member => ?_
      have exists_ := (seen p member).1
      rw [Option.bind_some] at missing
      rw [missing] at exists_
      cases exists_
  | case2 parent gesehen knoten found again =>
    have back := schritt isL above found
    obtain ⟨id, isParent, isKnoten⟩ := Option.bind_eq_some_iff.mp found
    obtain rfl := finde_id isKnoten
    rw [steigeAuf_gesehen found again, isParent]
    refine iff_of_false ?_ (not_not.mpr (cyclic_of_return chain back (seen knoten.id again).2))
    simpa using again
  | case3 parent gesehen knoten found new ih =>
    have next := schritt isL above found
    obtain ⟨id, isParent, isKnoten⟩ := Option.bind_eq_some_iff.mp found
    obtain rfl := finde_id isKnoten
    rw [steigeAuf_weiter found new]
    refine ih isKnoten rfl (chain.tail next) fun s member => ?_
    rcases List.mem_cons.mp member with rfl | before
    · exact ⟨by rw [isKnoten]; rfl, .refl⟩
    · exact ⟨(seen s before).1, (seen s before).2.tail next⟩

theorem haengtUnter_eq (isA : finde abschnitte a.id = some a) : haengtUnter abschnitte a = attach (eltern abschnitte) a.id := by
  have climbed : (steigeAuf abschnitte a.parentId [a.id]).1.all (· ∉ (steigeAuf abschnitte a.parentId [a.id]).2) = true ↔
      ¬ Cyclic (eltern abschnitte) a.id := by
    refine steigeAuf_iff isA rfl .refl fun s member => ?_
    rw [List.mem_singleton.mp member]
    exact ⟨by rw [isA]; rfl, .refl⟩
  have unfolded : haengtUnter abschnitte a = a.parentId.filter fun p => (finde abschnitte p).isSome ∧
      (steigeAuf abschnitte a.parentId [a.id]).1.all (· ∉ (steigeAuf abschnitte a.parentId [a.id]).2) = true := rfl
  refine Option.ext fun p => ?_
  rw [attach_eq_some, unfolded, Option.filter_eq_some_iff, decide_eq_true_eq, climbed, eltern_eq_some]
  constructor
  · rintro ⟨parent, exists_, acyclic⟩
    exact ⟨⟨a, isA, parent, exists_⟩, acyclic⟩
  · rintro ⟨⟨b, isB, parent, exists_⟩, acyclic⟩
    cases isA.symm.trans isB
    exact ⟨parent, exists_, acyclic⟩

end Aufstieg

section Aufbau

variable {abschnitte : List Abschnitt} {elemente : List VersionElement} {mitVertraulichen : Bool} {baum : Baum}

def ort (abschnitte : List Abschnitt) (e : VersionElement) : Option Nat := (e.abschnittId.bind (finde abschnitte)).map (·.id)

def sichtbar (mitVertraulichen : Bool) (e : VersionElement) : Bool := mitVertraulichen || !e.vertraulich

theorem haenge_foldl (rows : List Abschnitt) : rows.foldl (Baum.haenge abschnitte) baum = { baum with
    knoten := baum.knoten.map fun k =>
      { k with kinder := k.kinder ++ (rows.filter fun a => haengtUnter abschnitte a = some k.abschnitt.id).map (·.id) }
    wurzeln := baum.wurzeln ++ (rows.filter fun a => haengtUnter abschnitte a = none).map (·.id) } := by
  induction rows generalizing baum with
  | nil => simp
  | cons a rows ih =>
    rw [List.foldl_cons, ih]
    cases parent : haengtUnter abschnitte a with
    | none =>
      have step : baum.haenge abschnitte a = { baum with wurzeln := baum.wurzeln ++ [a.id] } := by rw [Baum.haenge, parent]
      simp [step, parent]
    | some p =>
      have step : baum.haenge abschnitte a = baum.kind p a.id := by rw [Baum.haenge, parent]
      rw [step, Baum.kind, List.map_map]
      simp only [List.filter_cons, parent, reduceCtorEq, decide_false, Bool.false_eq_true, if_false]
      congr 1
      refine List.map_congr_left fun k _ => ?_
      rw [Function.comp_apply]
      by_cases here : k.abschnitt.id = p
      · simp [here]
      · simp [here, Ne.symm here]

theorem lege_foldl (rows : List VersionElement) (sections : baum.knoten.map (·.abschnitt) = abschnitte) :
    rows.foldl (Baum.lege mitVertraulichen) baum = { baum with
      knoten := baum.knoten.map fun k => { k with
        elemente := k.elemente ++ rows.filter fun e => sichtbar mitVertraulichen e ∧ ort abschnitte e = some k.abschnitt.id }
      ohne := baum.ohne ++ rows.filter fun e => sichtbar mitVertraulichen e ∧ ort abschnitte e = none } := by
  induction rows generalizing baum with
  | nil => simp
  | cons e rows ih =>
    rw [List.foldl_cons]
    by_cases seen : sichtbar mitVertraulichen e = true
    · have unfolded : baum.lege mitVertraulichen e = match e.abschnittId.bind (finde abschnitte) with
          | some a => { baum with knoten := baum.knoten.map fun k =>
              if k.abschnitt.id = a.id then { k with elemente := k.elemente ++ [e] } else k }
          | none => { baum with ohne := baum.ohne ++ [e] } := by
        rw [Baum.lege, sections]
        exact if_pos seen
      cases found : e.abschnittId.bind (finde abschnitte) with
      | none =>
        have nowhere : ort abschnitte e = none := by rw [ort, found, Option.map_none]
        have step : baum.lege mitVertraulichen e = { baum with ohne := baum.ohne ++ [e] } := by rw [unfolded, found]
        rw [step, @ih { baum with ohne := baum.ohne ++ [e] } sections]
        simp [seen, nowhere]
      | some a =>
        have there : ort abschnitte e = some a.id := by rw [ort, found, Option.map_some]
        have step : baum.lege mitVertraulichen e = { baum with knoten := baum.knoten.map fun k =>
            if k.abschnitt.id = a.id then { k with elemente := k.elemente ++ [e] } else k } := by rw [unfolded, found]
        rw [step, ih]
        · rw [List.map_map]
          simp only [List.filter_cons, there, seen, true_and, Option.some.injEq, reduceCtorEq, and_false, decide_false,
            Bool.false_eq_true, if_false]
          congr 1
          refine List.map_congr_left fun k _ => ?_
          rw [Function.comp_apply]
          by_cases here : k.abschnitt.id = a.id
          · simp [here]
          · simp [here, Ne.symm here]
        · rw [List.map_map, ← sections]
          refine List.map_congr_left fun k _ => ?_
          rw [Function.comp_apply]
          split <;> rfl
    · have unfolded : baum.lege mitVertraulichen e = baum := by
        rw [Baum.lege]
        exact if_neg seen
      rw [unfolded, ih sections]
      simp [seen]

end Aufbau

section Vollstaendig

theorem gruppiert_perm {α : Type*} {f : α → Option Nat} {ids : List Nat} (nodup : ids.Nodup) {rows : List α}
    (closed : ∀ a ∈ rows, ∀ i, f a = some i → i ∈ ids) :
    ((ids.flatMap fun i => rows.filter fun a => f a = some i) ++ rows.filter fun a => f a = none).Perm rows := by
  have some_ : (ids.flatMap fun i => rows.filter fun a => f a = some i).Perm (rows.filter fun a => ∃ i ∈ ids, f a = some i) := by
    clear closed
    induction ids with
    | nil => simp
    | cons i ids ih =>
      rw [List.nodup_cons] at nodup
      have split := List.filter_append_perm (fun a => decide (f a = some i)) (rows.filter fun a => ∃ j ∈ i :: ids, f a = some j)
      rw [List.filter_filter, List.filter_filter] at split
      rw [List.flatMap_cons]
      refine List.Perm.trans ((ih nodup.2).append_left _) (List.Perm.trans (List.Perm.of_eq ?_) split)
      congr 1
      · refine List.filter_congr fun a _ => ?_
        rw [← Bool.decide_and, decide_eq_decide]
        simp +contextual
      · refine List.filter_congr fun a _ => ?_
        rw [← decide_not, ← Bool.decide_and, decide_eq_decide]
        simp only [List.exists_mem_cons_iff]
        constructor
        · rintro ⟨j, inside, isJ⟩
          refine ⟨fun isI => nodup.1 ?_, Or.inr ⟨j, inside, isJ⟩⟩
          rw [isI] at isJ
          exact Option.some.inj isJ ▸ inside
        · rintro ⟨other, isI | rest⟩
          · exact absurd isI other
          · exact rest
  refine (some_.append_right _).trans (List.Perm.trans (List.Perm.of_eq ?_)
    (List.filter_append_perm (fun a => decide (∃ i ∈ ids, f a = some i)) rows))
  congr 1
  refine List.filter_congr fun a member => ?_
  rw [← decide_not, decide_eq_decide]
  constructor
  · rintro none ⟨i, -, isI⟩
    rw [none] at isI
    cases isI
  · intro outside
    rw [Option.eq_none_iff_forall_ne_some]
    exact fun i isI => outside ⟨i, closed a member i isI, isI⟩

variable {abschnitte : List Abschnitt} (elemente : List VersionElement) (mitVertraulichen : Bool)

def sortiert (abschnitte : List Abschnitt) : List Abschnitt :=
  abschnitte.mergeSort fun a b => toLex (a.sort, a.id) ≤ toLex (b.sort, b.id)

def gereiht (elemente : List VersionElement) : List VersionElement :=
  elemente.mergeSort fun a b => toLex (a.sort, a.elementUuid) ≤ toLex (b.sort, b.elementUuid)

def blatt (abschnitte : List Abschnitt) (elemente : List VersionElement) (mitVertraulichen : Bool) (a : Abschnitt) : Knoten where
  abschnitt := a
  kinder := ((sortiert abschnitte).filter fun b => haengtUnter (sortiert abschnitte) b = some a.id).map (·.id)
  elemente := (gereiht elemente).filter fun e => sichtbar mitVertraulichen e ∧ ort (sortiert abschnitte) e = some a.id

theorem versionBaum_eq : versionBaum abschnitte elemente mitVertraulichen = {
    knoten := (sortiert abschnitte).map (blatt abschnitte elemente mitVertraulichen)
    wurzeln := ((sortiert abschnitte).filter fun a => haengtUnter (sortiert abschnitte) a = none).map (·.id)
    ohne := (gereiht elemente).filter fun e => sichtbar mitVertraulichen e ∧ ort (sortiert abschnitte) e = none } := by
  have unfolded : versionBaum abschnitte elemente mitVertraulichen = (gereiht elemente).foldl (Baum.lege mitVertraulichen)
      ((sortiert abschnitte).foldl (Baum.haenge (sortiert abschnitte))
        { knoten := (sortiert abschnitte).map ({ abschnitt := · }) }) := rfl
  rw [unfolded, haenge_foldl, lege_foldl]
  · simp only [List.map_map, List.nil_append]
    rfl
  · rw [List.map_map, List.map_map]
    exact List.map_id _

variable (eindeutig : (abschnitte.map (·.id)).Nodup)

theorem sortiert_perm (abschnitte : List Abschnitt) : (sortiert abschnitte).Perm abschnitte := List.mergeSort_perm _ _

include eindeutig in
theorem sortiert_eindeutig : ((sortiert abschnitte).map (·.id)).Nodup :=
  ((sortiert_perm abschnitte).map _).nodup_iff.mpr eindeutig

include eindeutig in
theorem finde_sortiert : finde (sortiert abschnitte) = finde abschnitte := by
  funext id
  refine Option.ext fun a => ?_
  rw [finde_eq_some (sortiert_eindeutig eindeutig), finde_eq_some eindeutig, (sortiert_perm abschnitte).mem_iff]

include eindeutig in
theorem eltern_sortiert : eltern (sortiert abschnitte) = eltern abschnitte := by
  funext id
  rw [eltern, eltern, finde_sortiert eindeutig]

include eindeutig in
theorem haengtUnter_sortiert {a : Abschnitt} (member : a ∈ sortiert abschnitte) :
    haengtUnter (sortiert abschnitte) a = attach (eltern abschnitte) a.id := by
  rw [haengtUnter_eq ((finde_eq_some (sortiert_eindeutig eindeutig)).mpr ⟨member, rfl⟩), eltern_sortiert eindeutig]

include eindeutig in
theorem knoten?_eq (id : Nat) : (versionBaum abschnitte elemente mitVertraulichen).knoten? id =
    (finde abschnitte id).map (blatt abschnitte elemente mitVertraulichen) := by
  rw [Baum.knoten?, versionBaum_eq, List.find?_map, ← finde_sortiert eindeutig]
  rfl

include eindeutig in
theorem kinder_eq {id : Nat} : (versionBaum abschnitte elemente mitVertraulichen).kinder id =
    ((sortiert abschnitte).map (·.id)).filter fun a => attach (eltern abschnitte) a = some id := by
  rw [Baum.kinder, knoten?_eq elemente mitVertraulichen eindeutig, List.filter_map]
  cases found : finde abschnitte id with
  | some a =>
    rw [Option.map_some, Option.map_some, Option.getD_some, ← finde_id found]
    refine congrArg _ (List.filter_congr fun b member => ?_)
    rw [haengtUnter_sortiert eindeutig member]
    rfl
  | none =>
    refine (List.map_eq_nil_iff.mpr (List.filter_eq_nil_iff.mpr fun b _ hangs => ?_)).symm
    obtain ⟨parent, -⟩ := attach_eq_some.mp (of_decide_eq_true hangs)
    obtain ⟨-, -, -, exists_⟩ := eltern_eq_some.mp parent
    rw [found] at exists_
    cases exists_

include eindeutig in
theorem besucht_perm {tiefe : Nat} (tief : abschnitte.length ≤ tiefe) :
    (visit (versionBaum abschnitte elemente mitVertraulichen).kinder tiefe
      (versionBaum abschnitte elemente mitVertraulichen).wurzeln).Perm ((sortiert abschnitte).map (·.id)) := by
  refine visit_perm (sortiert_eindeutig eindeutig) (fun a _ b parent => ?_) acyclic_attach ?_
    (fun p _ => List.Perm.of_eq (kinder_eq elemente mitVertraulichen eindeutig)) ?_
  · obtain ⟨-, -, -, exists_⟩ := eltern_eq_some.mp (attach_eq_some.mp parent).1
    obtain ⟨row, found⟩ := Option.isSome_iff_exists.mp exists_
    rw [← finde_id found, List.mem_map]
    exact ⟨row, (sortiert_perm abschnitte).mem_iff.mpr (mem_of_finde found), rfl⟩
  · rw [versionBaum_eq, List.filter_map]
    refine List.Perm.of_eq (congrArg _ (List.filter_congr fun a member => ?_))
    rw [haengtUnter_sortiert eindeutig member]
    rfl
  · rwa [List.length_map, (sortiert_perm abschnitte).length_eq]

include eindeutig in
theorem erreicht_perm {tiefe : Nat} (tief : abschnitte.length ≤ tiefe) :
    ((versionBaum abschnitte elemente mitVertraulichen).erreicht tiefe).Perm
      ((sortiert abschnitte).map (blatt abschnitte elemente mitVertraulichen)) := by
  refine ((besucht_perm elemente mitVertraulichen eindeutig tief).filterMap _).trans (List.Perm.of_eq ?_)
  rw [List.filterMap_map, ← List.filterMap_eq_map]
  refine List.filterMap_congr fun a member => ?_
  have found := (finde_eq_some eindeutig).mpr ⟨(sortiert_perm abschnitte).mem_iff.mp member, rfl⟩
  rw [Function.comp_apply, knoten?_eq elemente mitVertraulichen eindeutig, found]
  rfl

end Vollstaendig

/-- The tree of a released plan has each section once, below its parent unless its chain
of ancestors runs into a cycle, and each element that is seen once. -/
theorem versionBaum_vollstaendig (abschnitte : List Abschnitt) (elemente : List VersionElement) (mitVertraulichen : Bool)
    (eindeutig : (abschnitte.map (·.id)).Nodup) (tiefe : Nat) (tief : abschnitte.length ≤ tiefe) :
    (((versionBaum abschnitte elemente mitVertraulichen).erreicht tiefe).map (·.abschnitt)).Perm abschnitte ∧
    (∀ a ∈ abschnitte, ∀ p, a.id ∈ (versionBaum abschnitte elemente mitVertraulichen).kinder p ↔
      a.parentId = some p ∧ (∃ b ∈ abschnitte, b.id = p) ∧ ¬ Cyclic (eltern abschnitte) a.id) ∧
    (((versionBaum abschnitte elemente mitVertraulichen).erreicht tiefe).flatMap (·.elemente) ++
      (versionBaum abschnitte elemente mitVertraulichen).ohne).Perm (elemente.filter (sichtbar mitVertraulichen)) := by
  have reached := erreicht_perm elemente mitVertraulichen eindeutig tief
  refine ⟨?_, fun a member p => ?_, ?_⟩
  · refine (reached.map _).trans ?_
    rw [List.map_map]
    exact (List.Perm.of_eq (List.map_id _)).trans (sortiert_perm abschnitte)
  · have found := (finde_eq_some eindeutig).mpr ⟨member, rfl⟩
    have exists_ : (finde abschnitte p).isSome = true ↔ ∃ b ∈ abschnitte, b.id = p := by
      rw [finde, List.find?_isSome]
      simp only [decide_eq_true_eq]
    have isId : a.id ∈ (sortiert abschnitte).map (·.id) := List.mem_map_of_mem ((sortiert_perm abschnitte).mem_iff.mpr member)
    rw [kinder_eq elemente mitVertraulichen eindeutig, List.mem_filter, decide_eq_true_eq, attach_eq_some, eltern_eq_some, exists_]
    constructor
    · rintro ⟨-, ⟨b, isB, parent, there⟩, acyclic⟩
      cases found.symm.trans isB
      exact ⟨parent, there, acyclic⟩
    · exact fun ⟨parent, there, acyclic⟩ => ⟨isId, ⟨a, found, parent, there⟩, acyclic⟩
  · have seen : (gereiht elemente).Perm elemente := List.mergeSort_perm _ _
    have closed : ∀ e ∈ (gereiht elemente).filter (sichtbar mitVertraulichen), ∀ i, ort (sortiert abschnitte) e = some i →
        i ∈ (sortiert abschnitte).map (·.id) := by
      intro e _ i there
      obtain ⟨a, found, rfl⟩ := Option.map_eq_some_iff.mp there
      obtain ⟨id, -, isA⟩ := Option.bind_eq_some_iff.mp found
      exact List.mem_map_of_mem (mem_of_finde isA)
    have grouped := gruppiert_perm (sortiert_eindeutig eindeutig) closed
    refine ((reached.flatMap_right _).append_right _).trans (List.Perm.trans (List.Perm.of_eq ?_)
      (grouped.trans (seen.filter _)))
    rw [versionBaum_eq, List.flatMap_map, List.flatMap_map]
    simp only [List.filter_filter, blatt]
    have swapped : ∀ (e : VersionElement) (place : Option Nat), decide (sichtbar mitVertraulichen e = true ∧ ort (sortiert abschnitte) e = place) =
        (decide (ort (sortiert abschnitte) e = place) && sichtbar mitVertraulichen e) := by
      intro e place
      rw [Bool.decide_and, Bool.decide_eq_true, Bool.and_comm]
    simp only [swapped]

def mitSelbstbezug : List Abschnitt := [⟨1, none, 20⟩, ⟨2, some 1, 0⟩, ⟨3, some 3, 10⟩]

theorem versionBaum_selbstbezug : (((versionBaum mitSelbstbezug [⟨"e1", some 2, 0, false⟩] false).erreicht 3).map (·.abschnitt)).Perm
    mitSelbstbezug :=
  (versionBaum_vollstaendig mitSelbstbezug _ false (by decide) 3 (by decide)).1

end Einsatzcockpit.Katplan
