import Mathlib.Data.List.Basic

namespace Upsert

variable {κ α β : Type*}

/-- The key of a row and of an entry, the update of a row by an entry, and the
row of a new entry. -/
structure Schema (κ α β : Type*) where
  key : β → Option κ
  keyOf : α → κ
  update : α → β → β
  new : α → β

variable (schema : Schema κ α β)

/-- One entry. -/
def upsert [DecidableEq κ] (entry : α) : List β → List β
  | [] => [schema.new entry]
  | row :: rest => if schema.key row = some (schema.keyOf entry) then schema.update entry row :: rest
    else row :: upsert entry rest

/-- One entry after the other. -/
def upserts [DecidableEq κ] (entries : List α) (rows : List β) : List β := entries.foldl (fun rows entry => upsert schema entry rows) rows

/-- The updates of a row by the entries with its key. -/
def updates (entries : List α) (row : β) : β := entries.foldl (fun row entry => schema.update entry row) row

/-- Rows and entries keep their keys, a new row is an updated one, and to update
twice is to update once. -/
structure Lawful : Prop where
  key_update : ∀ entry row, schema.key (schema.update entry row) = schema.key row
  new_eq : ∀ entry, ∃ blank, schema.key blank = some (schema.keyOf entry) ∧ schema.new entry = schema.update entry blank
  twice : ∀ entries row, updates schema entries (updates schema entries row) = updates schema entries row

variable {schema}

theorem key_updates (lawful : Lawful schema) (entries : List α) (row : β) :
    schema.key (updates schema entries row) = schema.key row := by
  induction entries generalizing row with
  | nil => rfl
  | cons entry rest ih => exact (ih _).trans (lawful.key_update entry row)

variable [DecidableEq κ]

/-- The entries with the key of the first row update it, the others pass on. -/
theorem upserts_cons (lawful : Lawful schema) (entries : List α) (row : β) (rows : List β) :
    upserts schema entries (row :: rows) =
      updates schema (entries.filter fun entry => schema.key row = some (schema.keyOf entry)) row ::
        upserts schema (entries.filter fun entry => ¬ schema.key row = some (schema.keyOf entry)) rows := by
  induction entries generalizing row rows with
  | nil => rfl
  | cons entry rest ih =>
    by_cases same : schema.key row = some (schema.keyOf entry)
    · have first : upsert schema entry (row :: rows) = schema.update entry row :: rows := if_pos same
      have later := ih (schema.update entry row) rows
      rw [lawful.key_update] at later
      simp only [upserts, List.foldl_cons, first] at later ⊢
      rw [later]
      simp [same, updates]
    · have first : upsert schema entry (row :: rows) = row :: upsert schema entry rows := if_neg same
      have later := ih row (upsert schema entry rows)
      simp only [upserts, List.foldl_cons, first] at later ⊢
      rw [later]
      simp [same]

/-- The first entry adds a row, and the others with its key update that row. -/
theorem upserts_upserts_nil (lawful : Lawful schema) (entries : List α) :
    upserts schema entries (upserts schema entries []) = upserts schema entries [] := by
  match entries with
  | [] => rfl
  | entry :: rest =>
    obtain ⟨blank, isKey, isNew⟩ := lawful.new_eq entry
    have added : upserts schema (entry :: rest) [] = upserts schema (entry :: rest) [blank] := by
      have first : upsert schema entry [blank] = [schema.update entry blank] := if_pos isKey
      have new : upsert schema entry [] = [schema.new entry] := rfl
      simp only [upserts, List.foldl_cons, first, new, isNew]
    rw [added, upserts_cons lawful, upserts_cons lawful, key_updates lawful, lawful.twice]
    have shorter : ((entry :: rest).filter fun e => ¬ schema.key blank = some (schema.keyOf e)).length <
        (entry :: rest).length := by
      refine List.length_filter_lt_length_iff_exists.mpr ⟨entry, List.mem_cons_self .., ?_⟩
      simp [isKey]
    congr 1
    exact upserts_upserts_nil lawful _
  termination_by entries.length
  decreasing_by simpa using shorter

theorem upserts_upserts (lawful : Lawful schema) (entries : List α) (rows : List β) :
    upserts schema entries (upserts schema entries rows) = upserts schema entries rows := by
  induction rows generalizing entries with
  | nil => exact upserts_upserts_nil lawful entries
  | cons row rows ih => rw [upserts_cons lawful, upserts_cons lawful, key_updates lawful, lawful.twice, ih]

/-- An entry has its row. -/
def Present (schema : Schema κ α β) (entry : α) (rows : List β) : Prop :=
  ∃ row ∈ rows, schema.key row = some (schema.keyOf entry)

theorem present_upsert_self (lawful : Lawful schema) (entry : α) (rows : List β) :
    Present schema entry (upsert schema entry rows) := by
  induction rows with
  | nil =>
    obtain ⟨blank, isKey, isNew⟩ := lawful.new_eq entry
    refine ⟨schema.new entry, List.mem_singleton_self _, ?_⟩
    rw [isNew, lawful.key_update, isKey]
  | cons row rest ih =>
    unfold upsert
    split
    · next same => exact ⟨schema.update entry row, List.mem_cons_self .., (lawful.key_update entry row).trans same⟩
    · obtain ⟨found, member, isKey⟩ := ih
      exact ⟨found, List.mem_cons_of_mem _ member, isKey⟩

theorem Present.upsert {entry : α} {rows : List β} (present : Present schema entry rows) (lawful : Lawful schema) (other : α) :
    Present schema entry (upsert schema other rows) := by
  induction rows with
  | nil =>
    obtain ⟨row, member, -⟩ := present
    cases member
  | cons first rest ih =>
    obtain ⟨row, member, isKey⟩ := present
    unfold Upsert.upsert
    split
    · rcases List.mem_cons.mp member with rfl | later
      · exact ⟨schema.update other row, List.mem_cons_self .., (lawful.key_update other row).trans isKey⟩
      · exact ⟨row, List.mem_cons_of_mem _ later, isKey⟩
    · rcases List.mem_cons.mp member with rfl | later
      · exact ⟨row, List.mem_cons_self .., isKey⟩
      · obtain ⟨found, isFound, key⟩ := ih ⟨row, later, isKey⟩
        exact ⟨found, List.mem_cons_of_mem _ isFound, key⟩

theorem Present.upserts {entry : α} {rows : List β} (present : Present schema entry rows) (lawful : Lawful schema)
    (entries : List α) : Present schema entry (upserts schema entries rows) := by
  induction entries generalizing rows with
  | nil => exact present
  | cons other rest ih => exact ih (present.upsert lawful other)

theorem present_upserts (lawful : Lawful schema) {entries : List α} (rows : List β) :
    ∀ entry ∈ entries, Present schema entry (upserts schema entries rows) := by
  induction entries generalizing rows with
  | nil => simp
  | cons first rest ih =>
    intro entry member
    rcases List.mem_cons.mp member with rfl | later
    · exact (present_upsert_self lawful entry rows).upserts lawful rest
    · exact ih (upsert schema first rows) entry later

theorem upserts_append (lawful : Lawful schema) {entries : List α} {rows : List β}
    (present : ∀ entry ∈ entries, Present schema entry rows) (behind : List β) :
    upserts schema entries (rows ++ behind) = upserts schema entries rows ++ behind := by
  have one : ∀ entry rows, Present schema entry rows → upsert schema entry (rows ++ behind) = upsert schema entry rows ++ behind := by
    intro entry rows has
    induction rows with
    | nil =>
      obtain ⟨row, member, -⟩ := has
      cases member
    | cons first rest ih =>
      simp only [List.cons_append, upsert]
      split
      · rfl
      · next differs =>
        obtain ⟨row, member, isKey⟩ := has
        rcases List.mem_cons.mp member with rfl | later
        · exact absurd isKey differs
        · rw [ih ⟨row, later, isKey⟩, List.cons_append]
  induction entries generalizing rows with
  | nil => rfl
  | cons first rest ih =>
    have kept : ∀ entry ∈ rest, Present schema entry (upsert schema first rows) := fun entry member =>
      (present entry (List.mem_cons_of_mem _ member)).upsert lawful first
    have first' := one first rows (present first (List.mem_cons_self ..))
    have later := ih kept
    simp only [upserts, List.foldl_cons, first'] at later ⊢
    exact later

/-- Entries that have been written change nothing, whatever has been added behind
them. -/
theorem upserts_again (lawful : Lawful schema) (entries : List α) (rows behind : List β) :
    upserts schema entries (upserts schema entries rows ++ behind) = upserts schema entries rows ++ behind := by
  rw [upserts_append lawful (present_upserts lawful rows), upserts_upserts lawful]

end Upsert
