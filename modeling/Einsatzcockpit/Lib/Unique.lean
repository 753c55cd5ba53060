import Einsatzcockpit.Lib.Table

namespace Unique

variable {κ β : Type*}

/-- A table with a unique key: its committed rows, and the row each open
transaction has written under the lock of its key. -/
structure Table (β : Type*) where
  rows : List β := []
  held : List (Nat × β) := []

/-- The answer to an insertion; one that waits for a lock has not answered yet. -/
inductive Insertion where
  | inserted | duplicate | waiting

namespace Table

/-- The row a transaction has written. -/
def row? (transaction : Nat) (table : Table β) : Option β :=
  (table.held.find? fun entry => entry.1 == transaction).map (·.2)

def rollback (transaction : Nat) (table : Table β) : Table β :=
  { table with held := table.held.eraseP fun entry => entry.1 == transaction }

def commit (transaction : Nat) (table : Table β) : Table β :=
  { table.rollback transaction with rows := table.rows ++ (table.row? transaction).toList }

section Key

variable [DecidableEq κ] (key : β → κ)

def insert (transaction : Nat) (row : β) (table : Table β) : Insertion × Table β :=
  if table.rows.any fun other => key other == key row then (.duplicate, table)
  else if table.held.any fun entry => key entry.2 == key row then (.waiting, table)
  else (.inserted, { table with held := table.held ++ [(transaction, row)] })

end Key

/-- No key is given twice, neither to a committed row nor to one that may be. -/
structure Sound (key : β → κ) (table : Table β) : Prop where
  keys : (table.rows.map key ++ table.held.map fun entry => key entry.2).Nodup
  transactions : (table.held.map (·.1)).Nodup

variable {key : β → κ} {table : Table β} {transaction : Nat}

theorem row?_of_mem {row : β} (transactions : (table.held.map (·.1)).Nodup) (member : (transaction, row) ∈ table.held) :
    table.row? transaction = some row := by
  have found : table.held.find? (fun entry => entry.1 == transaction) = some (transaction, row) :=
    Relational.find?_key Prod.fst transactions member
  rw [row?, found]
  rfl

theorem mem_of_row? {row : β} (written : table.row? transaction = some row) : (transaction, row) ∈ table.held := by
  obtain ⟨entry, found, rfl⟩ := Option.map_eq_some_iff.mp written
  have same : entry.1 = transaction := by simpa using List.find?_some found
  rw [← same]
  exact List.mem_of_find?_eq_some found

theorem row?_eq_none (unheld : ∀ row, (transaction, row) ∉ table.held) : table.row? transaction = none := by
  cases written : table.row? transaction with
  | none => rfl
  | some row => exact absurd (mem_of_row? written) (unheld row)

theorem held_rollback : (table.rollback transaction).held.Sublist table.held := List.eraseP_sublist

theorem perm_of_find? {α : Type*} {p : α → Bool} {a : α} {list : List α} (found : list.find? p = some a) :
    list.Perm (a :: list.eraseP p) := by
  induction list with
  | nil => cases found
  | cons head rest ih =>
    by_cases hit : p head
    · rw [List.find?_cons_of_pos hit] at found
      cases found
      rw [List.eraseP_cons_of_pos hit]
    · rw [List.find?_cons_of_neg hit] at found
      rw [List.eraseP_cons_of_neg hit]
      exact ((ih found).cons head).trans (.swap ..)

theorem held_perm {row : β} (written : table.row? transaction = some row) :
    table.held.Perm ((transaction, row) :: (table.rollback transaction).held) := by
  obtain ⟨⟨owner, row⟩, found, rfl⟩ := Option.map_eq_some_iff.mp written
  have same : owner = transaction := by simpa using List.find?_some found
  subst same
  exact perm_of_find? found

namespace Sound

theorem empty : Sound key ({} : Table β) := ⟨List.nodup_nil, List.nodup_nil⟩

section

variable (sound : table.Sound key)
include sound

theorem rows : (table.rows.map key).Nodup := (List.nodup_append.mp sound.keys).1

theorem rollback (transaction : Nat) : (table.rollback transaction).Sound key := by
  refine ⟨sound.keys.sublist ?_, sound.transactions.sublist (held_rollback.map _)⟩
  exact (List.Sublist.refl _).append (held_rollback.map _)

theorem not_held (row : β) : (transaction, row) ∉ (table.rollback transaction).held := by
  intro member
  have written := row?_of_mem sound.transactions (held_rollback.subset member)
  have distinct := ((held_perm written).map Prod.fst).nodup_iff.mp sound.transactions
  rw [List.map_cons, List.nodup_cons] at distinct
  exact distinct.1 (List.mem_map_of_mem member)

theorem commit (transaction : Nat) : (table.commit transaction).Sound key := by
  refine ⟨?_, (sound.rollback transaction).transactions⟩
  unfold Table.commit
  cases written : table.row? transaction with
  | none =>
    rw [Option.toList_none, List.append_nil]
    exact (sound.rollback transaction).keys
  | some row =>
    have moved := ((held_perm written).map fun entry => key entry.2).append_left (table.rows.map key)
    have keys := moved.nodup_iff.mp sound.keys
    rw [Option.toList_some, List.map_append, List.map_singleton, List.append_assoc]
    exact keys

theorem insert [DecidableEq κ] (free : table.row? transaction = none) (row : β) :
    (table.insert key transaction row).2.Sound key := by
  unfold Table.insert
  split
  · exact sound
  · next fresh =>
    split
    · exact sound
    · next unlocked =>
      simp only [List.any_eq_true, beq_iff_eq, not_exists, not_and] at fresh unlocked
      refine ⟨?_, ?_⟩
      · rw [List.map_append, List.map_singleton, ← List.append_assoc, List.nodup_append]
        refine ⟨sound.keys, List.nodup_singleton _, fun k known k' isNew => ?_⟩
        rw [List.mem_singleton.mp isNew]
        rintro rfl
        rcases List.mem_append.mp known with committed | locked
        · obtain ⟨other, member, same⟩ := List.mem_map.mp committed
          exact fresh other member same
        · obtain ⟨entry, member, same⟩ := List.mem_map.mp locked
          exact unlocked entry member same
      · rw [List.map_append, List.map_singleton, List.nodup_append]
        refine ⟨sound.transactions, List.nodup_singleton _, fun other known other' isNew => ?_⟩
        rw [List.mem_singleton.mp isNew]
        rintro rfl
        obtain ⟨entry, member, same⟩ := List.mem_map.mp known
        rw [row?, Option.map_eq_none_iff] at free
        exact List.find?_eq_none.mp free entry member (by simpa using same)

end

end Sound

theorem insert_of_free [DecidableEq κ] {row : β} (rows : ∀ other ∈ table.rows, key other ≠ key row)
    (held : ∀ entry ∈ table.held, key entry.2 ≠ key row) : table.insert key transaction row =
      (.inserted, { table with held := table.held ++ [(transaction, row)] }) := by
  have noRow : (table.rows.any fun other => key other == key row) = false :=
    List.any_eq_false.mpr fun other known => by simpa using rows other known
  have noLock : (table.held.any fun entry => key entry.2 == key row) = false :=
    List.any_eq_false.mpr fun entry known => by simpa using held entry known
  simp only [Table.insert, noRow, noLock, Bool.false_eq_true, if_false]

theorem inserted_spec [DecidableEq κ] {row : β} {table' : Table β}
    (done : table.insert key transaction row = (.inserted, table')) :
    table'.rows = table.rows ∧ table'.held = table.held ++ [(transaction, row)] := by
  unfold Table.insert at done
  split at done
  · cases done
  · split at done
    · cases done
    · cases done
      exact ⟨rfl, rfl⟩

end Table

end Unique
