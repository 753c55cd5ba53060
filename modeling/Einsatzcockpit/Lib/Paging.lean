import Mathlib.Data.List.Sort
import Mathlib.Tactic.Ring

namespace Paging

variable {α : Type*} (key : α → Nat)

/-- The rows with a key above `after`, in the order of the keys. -/
def above (after : Nat) (rows : List α) : List α :=
  (rows.filter fun row => decide (after < key row)).insertionSort fun a b => key a ≤ key b

/-- A page of at most `limit` rows, and whether more follow: one row more than
asked for is read. -/
def page (after limit : Nat) (rows : List α) : List α × Bool :=
  let found := (above key after rows).take (limit + 1)
  (found.take limit, decide (limit < found.length))

/-- The key of the last row. -/
def lastKey (rows : List α) : Option Nat := rows.getLast?.map key

variable {key} {after limit : Nat} {rows : List α} {row : α}

@[simp] theorem mem_above : row ∈ above key after rows ↔ row ∈ rows ∧ after < key row := by
  simp [above]

theorem above_sorted : (above key after rows).Pairwise (key · ≤ key ·) := by
  have total : Std.Total fun a b : α => key a ≤ key b := ⟨fun a b => Nat.le_total (key a) (key b)⟩
  have transitive : IsTrans α fun a b => key a ≤ key b := ⟨fun _ _ _ => Nat.le_trans⟩
  exact List.pairwise_insertionSort _ _

theorem page_fst : (page key after limit rows).1 = (above key after rows).take limit := by
  simp [page, List.take_take]

theorem page_snd : (page key after limit rows).2 = true ↔ limit < (above key after rows).length := by
  simp only [page, List.length_take, decide_eq_true_eq]
  omega

theorem mem_page (member : row ∈ (page key after limit rows).1) : row ∈ rows ∧ after < key row := by
  rw [page_fst] at member
  exact mem_above.mp (List.mem_of_mem_take member)

theorem page_sorted : (page key after limit rows).1.Pairwise (key · ≤ key ·) := by
  rw [page_fst]
  exact above_sorted.sublist (List.take_sublist ..)

theorem page_complete (last : (page key after limit rows).2 = false) (member : row ∈ rows) (later : after < key row) :
    row ∈ (page key after limit rows).1 := by
  have short : (above key after rows).length ≤ limit := by
    rw [← Bool.not_eq_true, page_snd] at last
    omega
  rw [page_fst, List.take_of_length_le short]
  exact mem_above.mpr ⟨member, later⟩

theorem page_lastKey {until_ : Nat} (last : lastKey key (page key after limit rows).1 = some until_)
    (member : row ∈ (page key after limit rows).1) : key row ≤ until_ := by
  obtain ⟨other, atEnd, rfl⟩ := Option.map_eq_some_iff.mp last
  obtain ⟨init, split⟩ := List.getLast?_eq_some_iff.mp atEnd
  have sorted : (page key after limit rows).1.Pairwise (key · ≤ key ·) := page_sorted
  rw [split] at sorted member
  rcases List.mem_append.mp member with before | same
  · exact (List.pairwise_append.mp sorted).2.2 row before other (List.mem_singleton_self _)
  · rw [List.mem_singleton.mp same]

theorem page_until {until_ : Nat} (distinct : (rows.map key).Nodup)
    (last : lastKey key (page key after limit rows).1 = some until_) (member : row ∈ rows) (later : after < key row)
    (early : key row ≤ until_) : row ∈ (page key after limit rows).1 := by
  obtain ⟨other, atEnd, rfl⟩ := Option.map_eq_some_iff.mp last
  have inside := List.mem_of_getLast? atEnd
  have found : row ∈ above key after rows := mem_above.mpr ⟨member, later⟩
  have sorted : (above key after rows).Pairwise (key · ≤ key ·) := above_sorted
  rw [← List.take_append_drop limit (above key after rows)] at found sorted
  rw [page_fst] at inside ⊢
  rcases List.mem_append.mp found with taken | dropped
  · exact taken
  · have between := (List.pairwise_append.mp sorted).2.2 other inside row dropped
    have isRow := (mem_above.mp (List.mem_of_mem_take inside)).1
    have same : row = other := List.inj_on_of_nodup_map distinct member isRow (Nat.le_antisymm early between)
    exact same ▸ inside

theorem lastKey_eq_none : lastKey key rows = none ↔ rows = [] := by
  simp [lastKey]

theorem after_lt_lastKey {until_ : Nat} (last : lastKey key (page key after limit rows).1 = some until_) :
    after < until_ := by
  obtain ⟨other, atEnd, rfl⟩ := Option.map_eq_some_iff.mp last
  exact (mem_page (List.mem_of_getLast? atEnd)).2

theorem lastKey_of_more (positive : 1 ≤ limit) (more : (page key after limit rows).2 = true) :
    ∃ until_, lastKey key (page key after limit rows).1 = some until_ := by
  rw [← Option.ne_none_iff_exists', Ne, lastKey_eq_none, page_fst]
  intro empty
  have length := congrArg List.length empty
  rw [List.length_take, List.length_nil] at length
  have many := page_snd.mp more
  omega

theorem page_nodup (distinct : (rows.map key).Nodup) : ((page key after limit rows).1.map key).Nodup := by
  rw [page_fst]
  refine ((List.take_sublist ..).map key).nodup ?_
  have same := (List.perm_insertionSort (fun a b => key a ≤ key b) (rows.filter fun row => decide (after < key row))).map key
  exact same.nodup_iff.mpr ((List.filter_sublist.map key).nodup distinct)

theorem exists_last (key : α → Nat) {P : α → Prop} (some_ : ∃ row ∈ rows, P row) :
    ∃ row ∈ rows, P row ∧ ∀ other ∈ rows, P other → key other ≤ key row := by
  induction rows with
  | nil => exact absurd some_ (by simp)
  | cons first rest ih =>
    by_cases later : ∃ row ∈ rest, P row
    · obtain ⟨row, member, holds, largest⟩ := ih later
      by_cases better : P first ∧ key row < key first
      · refine ⟨first, List.mem_cons_self .., better.1, fun other inside also => ?_⟩
        rcases List.mem_cons.mp inside with rfl | inRest
        · exact le_refl _
        · exact (largest other inRest also).trans better.2.le
      · refine ⟨row, List.mem_cons_of_mem _ member, holds, fun other inside also => ?_⟩
        rcases List.mem_cons.mp inside with rfl | inRest
        · exact Nat.le_of_not_lt fun less => better ⟨also, less⟩
        · exact largest other inRest also
    · obtain ⟨row, member, holds⟩ := some_
      have only : ∀ other ∈ first :: rest, P other → other = first := by
        intro other inside also
        exact (List.mem_cons.mp inside).resolve_right fun inRest => later ⟨other, inRest, also⟩
      refine ⟨row, member, holds, fun other inside also => ?_⟩
      rw [only other inside also, only row member holds]

/-- The rows in slices of `size`, the last one with what is left. -/
def slices (size : Nat) (rows : List α) : List (List α) :=
  (List.range ((rows.length + (size - 1)) / size)).map fun start => (rows.drop (size * start)).take size

theorem flatten_take (size count : Nat) (rows : List α) :
    ((List.range count).map fun start => (rows.drop (size * start)).take size).flatten = rows.take (size * count) := by
  induction count with
  | zero => simp
  | succ count ih =>
    rw [List.range_succ, List.map_append, List.flatten_append, ih, Nat.mul_succ, List.take_add]
    simp

variable {size : Nat} {slice : List α}

theorem length_le_slices (positive : 0 < size) (rows : List α) :
    rows.length ≤ size * ((rows.length + (size - 1)) / size) := by
  have divided := Nat.div_add_mod (rows.length + (size - 1)) size
  have small := Nat.mod_lt (rows.length + (size - 1)) positive
  omega

theorem flatten_slices (positive : 0 < size) (rows : List α) : (slices size rows).flatten = rows := by
  rw [slices, flatten_take, List.take_of_length_le (length_le_slices positive rows)]

theorem slices_length_le (member : slice ∈ slices size rows) : slice.length ≤ size := by
  obtain ⟨start, -, rfl⟩ := List.mem_map.mp member
  exact List.length_take_le _ _

theorem slices_map {β : Type*} (f : α → β) (rows : List α) :
    slices size (rows.map f) = (slices size rows).map (List.map f) := by
  simp [slices, List.map_drop, List.map_take]

theorem slices_full (positive : 0 < size) (member : slice ∈ (slices size rows).dropLast) : slice.length = size := by
  rw [slices, ← List.map_dropLast] at member
  obtain ⟨start, within, rfl⟩ := List.mem_map.mp member
  have early : start + 1 < (rows.length + (size - 1)) / size := by
    cases count : (rows.length + (size - 1)) / size with
    | zero => simp [count] at within
    | succ pages =>
      rw [count, List.range_succ, List.dropLast_concat, List.mem_range] at within
      omega
  have reached : size * (start + 2) ≤ rows.length + (size - 1) :=
    (Nat.mul_le_mul_left size early).trans (Nat.mul_div_le _ _)
  have expanded : size * (start + 2) = size * start + size + size := by ring
  rw [List.length_take, List.length_drop]
  omega

end Paging
