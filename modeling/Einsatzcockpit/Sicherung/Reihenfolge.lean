import Einsatzcockpit.Lib.Raise
import Einsatzcockpit.Lib.Rounds

namespace Einsatzcockpit.Sicherung

structure Fremdschluessel where
  spalte : String
  ziel : String
  nullable : Bool

structure Tabelle where
  name : String
  spalten : List String
  foreignKeys : List Fremdschluessel

/-- `_scope_col` -/
def Tabelle.scopeCol (t : Tabelle) : Option String := ["org_id", "dept_id", "primary_org_id"].find? t.spalten.contains

/-- The table has a link to the other that must not be empty and is not its scope. -/
def wartet (t offen : Tabelle) : Bool :=
  t.foreignKeys.any fun fk => !fk.nullable && t.scopeCol != some fk.spalte && fk.ziel == offen.name && fk.ziel != t.name

/-- `_import_reihenfolge` -/
def importReihenfolge (tabellen : List Tabelle) : Except String (List Tabelle) :=
  Raising.demand (Rounds.order wartet tabellen.length tabellen)
    "Archiv enthält einen nicht auflösbaren Zyklus verpflichtender Verweise."

theorem wartet_self (t : Tabelle) : wartet t t = false := by
  refine List.any_eq_false.mpr fun fk _ => ?_
  by_cases own : fk.ziel = t.name <;> simp [own]

/-- A table is restored after all that it waits for, unless some wait for one another. -/
theorem importReihenfolge_richtig (tabellen : List Tabelle) :
    (∀ reihenfolge, importReihenfolge tabellen = .ok reihenfolge → reihenfolge.Perm tabellen ∧
      ∀ before t after, reihenfolge = before ++ t :: after → ∀ ziel ∈ tabellen, wartet t ziel = true → ziel ∈ before) ∧
    ((∃ reihenfolge, importReihenfolge tabellen = .ok reihenfolge) ↔
      ¬ ∃ zyklus ⊆ tabellen, zyklus ≠ [] ∧ ∀ t ∈ zyklus, ∃ ziel ∈ zyklus, wartet t ziel = true) := by
  have done : ∀ reihenfolge, importReihenfolge tabellen = .ok reihenfolge ↔
      Rounds.order wartet tabellen.length tabellen = some reihenfolge := fun _ => Raising.demand_eq_ok
  refine ⟨fun reihenfolge sorted => ?_, ?_⟩
  · obtain ⟨perm, ordered⟩ := Rounds.order_spec ((done reihenfolge).mp sorted)
    refine ⟨perm, ?_⟩
    rintro before t after rfl ziel member waits
    obtain ⟨-, behind, -⟩ := List.pairwise_append.mp ordered
    rcases List.mem_append.mp (perm.mem_iff.mpr member) with inside | later
    · exact inside
    · rcases List.mem_cons.mp later with rfl | later
      · simp [wartet_self] at waits
      · simp [List.rel_of_pairwise_cons behind later] at waits
  · have failed := (@Rounds.order_none _ wartet _ tabellen (Nat.le_refl _)).not
    simp only [← ne_eq, Option.ne_none_iff_exists', Rounds.Stuck, List.any_eq_true] at failed
    simp only [done, failed]

end Einsatzcockpit.Sicherung
