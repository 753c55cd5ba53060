import Einsatzcockpit.Lib.Table

namespace Relational

variable {α : Type*}

/-- A table whose rows have a key of their own, given out in ascending order. -/
structure Keyed (key : α → Nat) where
  rows : List α := []
  last : Nat := 0
  nodup : (rows.map key).Nodup
  fresh : ∀ row ∈ rows, key row ≤ last

namespace Keyed

variable {key : α → Nat}

def empty : Keyed key := { rows := [], last := 0, nodup := List.nodup_nil, fresh := by simp }

def get? (table : Keyed key) (id : Nat) : Option α := table.rows.find? fun row => key row == id

/-- The rows are rewritten, each under its key. -/
def map (table : Keyed key) (f : α → α) (keeps : ∀ row, key (f row) = key row) : Keyed key where
  rows := table.rows.map f
  last := table.last
  nodup := by
    have same : (table.rows.map f).map key = table.rows.map key := by
      rw [List.map_map]
      exact List.map_congr_left fun row _ => keeps row
    rw [same]
    exact table.nodup
  fresh := fun row member => by
    obtain ⟨old, isOld, rfl⟩ := List.mem_map.mp member
    rw [keeps]
    exact table.fresh old isOld

/-- The row with a key is rewritten. -/
def modify (table : Keyed key) (id : Nat) (f : α → α) (keeps : ∀ row, key (f row) = key row) : Keyed key :=
  table.map (fun row => if key row = id then f row else row) fun row => by
    split
    · exact keeps row
    · rfl

/-- A row is added under the next key. -/
def insert (table : Keyed key) (row : Nat → α) (numbered : ∀ id, key (row id) = id) : Keyed key where
  rows := table.rows ++ [row (table.last + 1)]
  last := table.last + 1
  nodup := by
    rw [List.map_append, List.map_singleton, List.nodup_append]
    refine ⟨table.nodup, List.nodup_singleton _, fun a old b new same => ?_⟩
    obtain ⟨other, member, rfl⟩ := List.mem_map.mp old
    have bound := table.fresh other member
    rw [List.mem_singleton.mp new, numbered] at same
    omega
  fresh := fun other member => by
    rcases List.mem_append.mp member with old | new
    · exact Nat.le_succ_of_le (table.fresh other old)
    · rw [List.mem_singleton.mp new]
      exact Nat.le_of_eq (numbered _)

def delete (table : Keyed key) (id : Nat) : Keyed key where
  rows := table.rows.filter fun row => key row != id
  last := table.last
  nodup := table.nodup.sublist (List.Sublist.map key List.filter_sublist)
  fresh := fun row member => table.fresh row (List.mem_of_mem_filter member)

/-- Some rows go, the others are rewritten, each under its key. -/
def filterMap (table : Keyed key) (f : α → Option α) (keeps : ∀ row next, f row = some next → key next = key row) : Keyed key where
  rows := table.rows.filterMap f
  last := table.last
  nodup := by
    have keys := table.nodup
    rw [List.Nodup, List.pairwise_map] at keys ⊢
    rw [List.pairwise_filterMap]
    refine keys.imp fun {a b} differ a' isA b' isB same => differ ?_
    rw [← keeps a a' isA, ← keeps b b' isB, same]
  fresh := fun row member => by
    obtain ⟨old, isOld, becomes⟩ := List.mem_filterMap.mp member
    rw [keeps old row becomes]
    exact table.fresh old isOld

variable {table : Keyed key} {id : Nat} {row : α}

theorem key_of_get? (found : table.get? id = some row) : key row = id := by
  simpa using List.find?_some found

theorem mem_of_get? (found : table.get? id = some row) : row ∈ table.rows :=
  List.mem_of_find?_eq_some found

theorem get?_of_mem (member : row ∈ table.rows) : table.get? (key row) = some row :=
  find?_key key table.nodup member

theorem get?_self (found : table.get? id = some row) : table.get? (key row) = some row :=
  get?_of_mem (mem_of_get? found)

theorem get?_map (f : α → α) (keeps : ∀ row, key (f row) = key row) :
    (table.map f keeps).get? id = (table.get? id).map f := by
  unfold get? map
  rw [List.find?_map]
  congr 2
  funext row
  simp only [Function.comp_apply, keeps]

theorem get?_modify (id other : Nat) (f : α → α) (keeps : ∀ row, key (f row) = key row) :
    (table.modify id f keeps).get? other = if other = id then (table.get? other).map f else table.get? other := by
  rw [modify, get?_map]
  cases found : table.get? other with
  | none => simp
  | some row =>
    rw [Option.map_some, key_of_get? found]
    split <;> rfl

theorem get?_modify_of_some (found : table.get? id = some row) (f : α → α) (keeps : ∀ row, key (f row) = key row) (other : Nat) :
    (table.modify id f keeps).get? other = if other = id then some (f row) else table.get? other := by
  rw [get?_modify]
  split
  · next same => rw [same, found, Option.map_some]
  · rfl

theorem modify_of_none {f : α → α} {keeps : ∀ row, key (f row) = key row} (missing : table.get? id = none) :
    table.modify id f keeps = table := by
  have rows : table.rows.map (fun row => if key row = id then f row else row) = table.rows := by
    refine (List.map_congr_left fun row member => ?_).trans (List.map_id _)
    have other : key row ≠ id := fun same => List.find?_eq_none.mp missing row member (beq_iff_eq.mpr same)
    rw [if_neg other, id_eq]
  cases table
  simp only [modify, map, rows]

theorem modify_of_self {f : α → α} {keeps : ∀ row, key (f row) = key row} (found : table.get? id = some row)
    (same : f row = row) : table.modify id f keeps = table := by
  have rows : table.rows.map (fun row => if key row = id then f row else row) = table.rows := by
    refine (List.map_congr_left fun other member => ?_).trans (List.map_id _)
    split
    · next isRow =>
      have read := get?_of_mem member
      rw [isRow, found] at read
      rw [← Option.some.inj read, same, id_eq]
    · rfl
  cases table
  simp only [modify, map, rows]

/-- What is read of the rows is the same where it is the same of the row that is
rewritten. -/
theorem map_modify {f g : α → α} {keeps : ∀ row, key (f row) = key row} {keepsG : ∀ row, key (g row) = key row}
    (found : table.get? id = some row) (same : g (f row) = g row) : (table.modify id f keeps).map g keepsG = table.map g keepsG := by
  have rows : (table.rows.map fun row => if key row = id then f row else row).map g = table.rows.map g := by
    rw [List.map_map]
    refine List.map_congr_left fun other member => ?_
    rw [Function.comp_apply]
    split
    · next isRow =>
      have read := get?_of_mem member
      rw [isRow, found] at read
      rw [← Option.some.inj read, same]
    · rfl
  simp only [modify, map, rows]

theorem get?_insert (new : Nat → α) (numbered : ∀ id, key (new id) = id) :
    (table.insert new numbered).get? id = if id = table.last + 1 then some (new id) else table.get? id := by
  have notYet : table.get? (table.last + 1) = none := by
    refine List.find?_eq_none.mpr fun row member same => ?_
    have bound := table.fresh row member
    rw [beq_iff_eq] at same
    omega
  unfold get? at notYet ⊢
  rw [insert, List.find?_append]
  split
  · next isNew =>
    subst isNew
    rw [notYet, Option.none_or, List.find?_singleton, numbered, beq_self_eq_true, if_pos rfl]
  · next old =>
    have differs : (key (new (table.last + 1)) == id) = false := by
      rw [numbered, beq_eq_false_iff_ne]
      exact fun same => old same.symm
    rw [List.find?_singleton, differs, if_neg Bool.false_ne_true, Option.or_none]

theorem get?_delete (other : Nat) : (table.delete id).get? other = if other = id then none else table.get? other := by
  unfold get? delete
  rw [List.find?_filter]
  split
  · next same =>
    subst same
    refine List.find?_eq_none.mpr fun row _ holds => ?_
    rw [decide_eq_true_eq, bne_iff_ne, beq_iff_eq] at holds
    exact holds.1 holds.2
  · next differs =>
    congr 1
    funext row
    by_cases isOther : key row = other
    · have kept : key row ≠ id := fun same => differs (isOther.symm.trans same)
      simp [isOther, differs]
    · simp [isOther]

theorem get?_insert_cases {new : Nat → α} {numbered : ∀ id, key (new id) = id}
    (found : (table.insert new numbered).get? id = some row) :
    table.get? id = some row ∨ id = table.last + 1 ∧ row = new (table.last + 1) := by
  rw [get?_insert] at found
  split at found
  · next isNew =>
    subst isNew
    exact Or.inr ⟨rfl, (Option.some.inj found).symm⟩
  · exact Or.inl found

theorem get?_insert_of_some {new : Nat → α} {numbered : ∀ id, key (new id) = id} (found : table.get? id = some row) :
    (table.insert new numbered).get? id = some row := by
  have bound := table.fresh row (mem_of_get? found)
  rw [key_of_get? found] at bound
  rw [get?_insert, if_neg (by omega), found]

theorem get?_modify_cases {other : Nat} {f : α → α} {keeps : ∀ row, key (f row) = key row}
    (found : (table.modify id f keeps).get? other = some row) :
    other ≠ id ∧ table.get? other = some row ∨ other = id ∧ ∃ old, table.get? id = some old ∧ row = f old := by
  rw [get?_modify] at found
  split at found
  · next same =>
    subst same
    obtain ⟨old, before, rfl⟩ := Option.map_eq_some_iff.mp found
    exact Or.inr ⟨rfl, old, before, rfl⟩
  · next differs => exact Or.inl ⟨differs, found⟩

theorem mem_filterMap {f : α → Option α} {keeps : ∀ row next, f row = some next → key next = key row} :
    row ∈ (table.filterMap f keeps).rows ↔ ∃ old ∈ table.rows, f old = some row := List.mem_filterMap

theorem get?_filterMap (f : α → Option α) (keeps : ∀ row next, f row = some next → key next = key row) :
    (table.filterMap f keeps).get? id = (table.get? id).bind f := by
  cases isRead : (table.filterMap f keeps).get? id with
  | some next =>
    obtain ⟨row, member, becomes⟩ := mem_filterMap.mp (mem_of_get? isRead)
    have found := get?_of_mem member
    rw [← keeps row next becomes, key_of_get? isRead] at found
    rw [found, Option.bind_some, becomes]
  | none =>
    cases found : table.get? id with
    | none => rfl
    | some row =>
      cases becomes : f row with
      | none => rw [Option.bind_some, becomes]
      | some next =>
        have isNext : next ∈ (table.filterMap f keeps).rows := mem_filterMap.mpr ⟨row, mem_of_get? found, becomes⟩
        have later := get?_of_mem isNext
        rw [keeps row next becomes, key_of_get? found, isRead] at later
        cases later

theorem mem_map {f : α → α} {keeps : ∀ row, key (f row) = key row} :
    row ∈ (table.map f keeps).rows ↔ ∃ old ∈ table.rows, f old = row := List.mem_map

theorem mem_modify_cases {f : α → α} {keeps : ∀ row, key (f row) = key row} (member : row ∈ (table.modify id f keeps).rows) :
    row ∈ table.rows ∨ ∃ old, table.get? id = some old ∧ row = f old := by
  obtain ⟨old, isOld, rfl⟩ := mem_map.mp member
  split
  · next same =>
    have found := get?_of_mem isOld
    rw [same] at found
    exact Or.inr ⟨old, found, rfl⟩
  · exact Or.inl isOld

theorem mem_insert_cases {new : Nat → α} {numbered : ∀ id, key (new id) = id} (member : row ∈ (table.insert new numbered).rows) :
    row ∈ table.rows ∨ row = new (table.last + 1) :=
  (List.mem_append.mp member).imp_right List.mem_singleton.mp

theorem mem_delete : row ∈ (table.delete id).rows ↔ row ∈ table.rows ∧ key row ≠ id := by
  rw [delete, List.mem_filter, bne_iff_ne]

/-- Every row of a table is still there later, in a state that `R` allows. -/
def Follows (R : α → α → Prop) (table later : Keyed key) : Prop :=
  ∀ id row, table.get? id = some row → ∃ next, later.get? id = some next ∧ R row next

section Follows

variable {R : α → α → Prop} {later : Keyed key}

theorem Follows.refl (reflexive : ∀ row, R row row) (table : Keyed key) : Follows R table table :=
  fun _ row found => ⟨row, found, reflexive row⟩

theorem Follows.trans (transitive : ∀ a b c, R a b → R b c → R a c) {last : Keyed key} (first : Follows R table later)
    (second : Follows R later last) : Follows R table last := by
  intro id row found
  obtain ⟨next, isNext, related⟩ := first id row found
  obtain ⟨final, isFinal, further⟩ := second id next isNext
  exact ⟨final, isFinal, transitive _ _ _ related further⟩

theorem Follows.modify (reflexive : ∀ row, R row row) {f : α → α} (keeps : ∀ row, key (f row) = key row)
    (related : ∀ row, table.get? id = some row → R row (f row)) : Follows R table (table.modify id f keeps) := by
  intro other row found
  rw [get?_modify]
  split
  · next same =>
    subst same
    exact ⟨f row, by rw [found, Option.map_some], related row found⟩
  · exact ⟨row, found, reflexive row⟩

theorem Follows.insert (reflexive : ∀ row, R row row) (new : Nat → α) (numbered : ∀ id, key (new id) = id) :
    Follows R table (table.insert new numbered) :=
  fun _ row found => ⟨row, get?_insert_of_some found, reflexive row⟩

end Follows

end Keyed

end Relational
