import Einsatzcockpit.Lib.Keyed
import Mathlib.Data.List.Perm.Basic

namespace Relational.Keyed

variable {ρ κ : Type*} {id : ρ → Nat}

section Absorb

variable [DecidableEq κ] (key : ρ → κ) (move : Nat → ρ → ρ) (keeps : ∀ n row, id (move n row) = id row)

/-- The rows `todo` are moved one after the other, the `n`-th of them by
`move n`; one whose key is known already is deleted. -/
def absorb : Keyed id → List κ → Nat → List ρ → Keyed id
  | table, _, _, [] => table
  | table, known, n, row :: todo =>
    if key row ∈ known then absorb (table.delete (id row)) known n todo
    else absorb (table.modify (id row) (move n) (keeps n)) (key row :: known) (n + 1) todo

/-- The rows of `todo` that are moved, as they are then. -/
def moved : List κ → Nat → List ρ → List ρ
  | _, _, [] => []
  | known, n, row :: todo =>
    if key row ∈ known then moved known n todo else move n row :: moved (key row :: known) (n + 1) todo

variable {key move keeps} {table : Keyed id} {known : List κ} {n : Nat} {row : ρ} {todo : List ρ}

theorem moved_eq_nil : moved key move known n todo = [] ↔ ∀ row ∈ todo, key row ∈ known := by
  induction todo generalizing known n with
  | nil => simp [moved]
  | cons row todo ih =>
    rw [moved, List.forall_mem_cons]
    split
    · next inside => rw [ih, and_iff_right inside]
    · next fresh => simp [fresh]

section Keys

variable (keepsKey : ∀ n row, key (move n row) = key row)

include keepsKey

theorem mem_moved_keys {k : κ} : k ∈ (moved key move known n todo).map key ↔ k ∈ todo.map key ∧ k ∉ known := by
  induction todo generalizing known n with
  | nil => simp [moved]
  | cons row todo ih =>
    rw [moved]
    split
    · next inside =>
      rw [ih, List.map_cons, List.mem_cons]
      constructor
      · exact fun ⟨later, fresh⟩ => ⟨Or.inr later, fresh⟩
      · rintro ⟨rfl | later, fresh⟩
        · exact absurd inside fresh
        · exact ⟨later, fresh⟩
    · next fresh =>
      rw [List.map_cons, keepsKey, List.mem_cons, ih, List.map_cons, List.mem_cons, List.mem_cons, not_or]
      constructor
      · rintro (rfl | ⟨later, -, other⟩)
        · exact ⟨Or.inl rfl, fresh⟩
        · exact ⟨Or.inr later, other⟩
      · rintro ⟨rfl | later, other⟩
        · exact Or.inl rfl
        · by_cases same : k = key row
          · exact Or.inl same
          · exact Or.inr ⟨later, same, other⟩

theorem moved_keys_nodup : ((moved key move known n todo).map key).Nodup := by
  induction todo generalizing known n with
  | nil => simp [moved]
  | cons row todo ih =>
    rw [moved]
    split
    · exact ih
    · rw [List.map_cons, keepsKey, List.nodup_cons, mem_moved_keys keepsKey]
      exact ⟨fun ⟨_, later⟩ => later (List.mem_cons_self ..), ih⟩

end Keys

/-- The rows that are still to do are in the table. -/
def Pending (table : Keyed id) (todo : List ρ) : Prop :=
  (∀ row ∈ todo, table.get? (id row) = some row) ∧ (todo.map id).Nodup

section

variable (pending : Pending table (row :: todo))
include pending

theorem Pending.tail : Pending table todo ∧ ∀ other ∈ todo, id other ≠ id row := by
  obtain ⟨there, nodup⟩ := pending
  rw [List.map_cons, List.nodup_cons] at nodup
  exact ⟨⟨fun other member => there other (List.mem_cons_of_mem _ member), nodup.2⟩,
    fun other member same => nodup.1 (same ▸ List.mem_map_of_mem member)⟩

theorem Pending.delete : Pending (table.delete (id row)) todo := by
  obtain ⟨rest, other⟩ := pending.tail
  exact ⟨fun later member => by rw [get?_delete, if_neg (other later member)]; exact rest.1 later member, rest.2⟩

theorem Pending.modify (f : ρ → ρ) (keepsId : ∀ row, id (f row) = id row) :
    Pending (table.modify (id row) f keepsId) todo := by
  obtain ⟨rest, other⟩ := pending.tail
  exact ⟨fun later member => by rw [get?_modify, if_neg (other later member)]; exact rest.1 later member, rest.2⟩

end

section

variable (found : table.get? (id row) = some row)
include found

theorem filter_delete {p : ρ → Bool} (out : p row = false) :
    (table.delete (id row)).rows.filter p = table.rows.filter p := by
  rw [delete, List.filter_filter]
  refine List.filter_congr fun other member => ?_
  by_cases same : id other = id row
  · have isRow := get?_of_mem member
    rw [same, found] at isRow
    rw [← Option.some.inj isRow, out, Bool.false_and]
  · rw [bne_iff_ne.mpr same, Bool.and_true]

theorem filter_modify {p : ρ → Bool} {f : ρ → ρ} {keepsId : ∀ row, id (f row) = id row} (out : p row = false) (still : p (f row) = false) :
    (table.modify (id row) f keepsId).rows.filter p = table.rows.filter p := by
  show (table.rows.map fun other => if id other = id row then f other else other).filter p = _
  have unchanged : ∀ other ∈ table.rows, p other = true → (if id other = id row then f other else other) = other := by
    intro other member holds
    rw [if_neg]
    intro same
    have isRow := get?_of_mem member
    rw [same, found] at isRow
    rw [← Option.some.inj isRow, out] at holds
    cases holds
  have gone : ∀ other ∈ table.rows, p other = false → p (if id other = id row then f other else other) = false := by
    intro other member fails
    split
    · next same =>
      have isRow := get?_of_mem member
      rw [same, found] at isRow
      rwa [← Option.some.inj isRow]
    · exact fails
  generalize table.rows = rows at unchanged gone
  induction rows with
  | nil => rfl
  | cons other rows ih =>
    have rest := ih (fun o member => unchanged o (List.mem_cons_of_mem _ member))
      fun o member => gone o (List.mem_cons_of_mem _ member)
    cases holds : p other with
    | true =>
      rw [List.map_cons, unchanged other (List.mem_cons_self ..) holds, List.filter_cons_of_pos holds,
        List.filter_cons_of_pos holds, rest]
    | false =>
      have fails := gone other (List.mem_cons_self ..) holds
      rw [List.map_cons, List.filter_cons_of_neg (by simp [fails]), List.filter_cons_of_neg (by simp [holds]), rest]

theorem filter_modify_perm {p : ρ → Bool} {f : ρ → ρ} {keepsId : ∀ row, id (f row) = id row} (out : p row = false) (enters : p (f row) = true) :
    ((table.modify (id row) f keepsId).rows.filter p).Perm (table.rows.filter p ++ [f row]) := by
  obtain ⟨before, after, split⟩ := List.append_of_mem (mem_of_get? found)
  have apart : ∀ other ∈ before ++ after, id other ≠ id row := by
    have nodup := table.nodup
    rw [split, List.map_append, List.map_cons, List.nodup_middle, ← List.map_append, List.nodup_cons] at nodup
    exact fun other member same => nodup.1 (same ▸ List.mem_map_of_mem member)
  have kept : ∀ part : List ρ, (∀ other ∈ part, id other ≠ id row) →
      (part.map fun other => if id other = id row then f other else other) = part := fun part other =>
    (List.map_congr_left fun o member => if_neg (other o member)).trans (List.map_id _)
  show ((table.rows.map fun other => if id other = id row then f other else other).filter p).Perm _
  rw [split, List.map_append, List.map_cons, if_pos rfl,
    kept before fun o member => apart o (List.mem_append_left _ member),
    kept after fun o member => apart o (List.mem_append_right _ member), List.filter_append,
    List.filter_cons_of_pos enters, List.filter_append, List.filter_cons_of_neg (by simp [out])]
  exact List.perm_middle.trans (List.perm_append_singleton _ _).symm

end

theorem absorb_filter {p : ρ → Bool} (pending : Pending table todo) (out : ∀ row ∈ todo, p row = false)
    (still : ∀ row ∈ todo, key row ∉ known → ∀ n, p (move n row) = false) :
    (absorb key move keeps table known n todo).rows.filter p = table.rows.filter p := by
  induction todo generalizing table known n with
  | nil => rfl
  | cons row todo ih =>
    have found := pending.1 row (List.mem_cons_self ..)
    have outRow := out row (List.mem_cons_self ..)
    have outRest : ∀ row ∈ todo, p row = false := fun r member => out r (List.mem_cons_of_mem _ member)
    rw [absorb]
    split
    · rw [ih pending.delete outRest fun r member => still r (List.mem_cons_of_mem _ member), filter_delete found outRow]
    · next fresh =>
      rw [ih (pending.modify _ _) outRest fun r member new =>
          still r (List.mem_cons_of_mem _ member) fun old => new (List.mem_cons_of_mem _ old),
        filter_modify found outRow (still row (List.mem_cons_self ..) fresh n)]

theorem absorb_perm {p : ρ → Bool} (pending : Pending table todo) (out : ∀ row ∈ todo, p row = false)
    (enters : ∀ n row, p (move n row) = true) :
    ((absorb key move keeps table known n todo).rows.filter p).Perm (table.rows.filter p ++ moved key move known n todo) := by
  induction todo generalizing table known n with
  | nil => simp [absorb, moved]
  | cons row todo ih =>
    have found := pending.1 row (List.mem_cons_self ..)
    have outRow := out row (List.mem_cons_self ..)
    have outRest : ∀ row ∈ todo, p row = false := fun r member => out r (List.mem_cons_of_mem _ member)
    rw [absorb, moved]
    split
    · rw [← filter_delete found outRow]
      exact ih pending.delete outRest
    · refine (ih (pending.modify _ _) outRest).trans ?_
      refine ((filter_modify_perm found outRow (enters n row)).append_right _).trans ?_
      rw [List.append_assoc, List.singleton_append]

theorem mem_absorb {other : ρ} {p : ρ → Bool} (enters : ∀ n row, p (move n row) = true)
    (member : other ∈ (absorb key move keeps table known n todo).rows) (stays : p other = false) :
    other ∈ table.rows ∧ id other ∉ todo.map id := by
  induction todo generalizing table known n with
  | nil => exact ⟨member, by simp⟩
  | cons row todo ih =>
    rw [absorb] at member
    rw [List.map_cons, List.mem_cons, not_or]
    split at member
    · obtain ⟨there, notLater⟩ := ih member
      rw [mem_delete] at there
      exact ⟨there.1, there.2, notLater⟩
    · obtain ⟨there, notLater⟩ := ih member
      obtain ⟨old, isOld, rewritten⟩ := mem_map.mp there
      by_cases same : id old = id row
      · rw [if_pos same] at rewritten
        rw [← rewritten, enters] at stays
        cases stays
      · rw [if_neg same] at rewritten
        rw [← rewritten] at notLater ⊢
        exact ⟨isOld, same, notLater⟩

end Absorb

/-- The owner `target` has what it had and what `source` had, nothing twice if
it had nothing twice, and `source` has nothing. -/
theorem absorb_union [DecidableEq κ] {owner : ρ → Nat} {key : ρ → κ} {move : Nat → ρ → ρ}
    {keeps : ∀ n row, id (move n row) = id row} {source target : Nat} {table : Keyed id} {todo : List ρ} {known : List κ}
    (apart : source ≠ target) (owned : ∀ n row, owner (move n row) = target)
    (keepsKey : ∀ n row, key (move n row) = key row)
    (all : todo.Perm (table.rows.filter (owner · = source)))
    (knows : known.Perm ((table.rows.filter (owner · = target)).map key)) :
    let later := absorb key move keeps table known 0 todo
    (∀ k, k ∈ (later.rows.filter (owner · = target)).map key ↔
      k ∈ (table.rows.filter (owner · = target)).map key ∨ k ∈ (table.rows.filter (owner · = source)).map key) ∧
    (((later.rows.filter (owner · = target)).map key).Nodup ↔ ((table.rows.filter (owner · = target)).map key).Nodup) ∧
    later.rows.filter (owner · = source) = [] := by
  intro later
  have ofSource : ∀ row ∈ todo, row ∈ table.rows ∧ owner row = source := by
    intro row member
    simpa using all.mem_iff.mp member
  have pending : Pending table todo :=
    ⟨fun row member => get?_of_mem (ofSource row member).1,
      (all.map id).nodup_iff.mpr ((List.filter_sublist.map id).nodup table.nodup)⟩
  have perm : (later.rows.filter (owner · = target)).Perm
      (table.rows.filter (owner · = target) ++ moved key move known 0 todo) :=
    absorb_perm pending (fun row member => by simp [(ofSource row member).2, apart]) fun n row => by simp [owned]
  have keys := perm.map key
  rw [List.map_append] at keys
  refine ⟨fun k => ?_, ?_, ?_⟩
  · rw [keys.mem_iff, List.mem_append, mem_moved_keys keepsKey, knows.mem_iff, (all.map key).mem_iff]
    tauto
  · rw [keys.nodup_iff, List.nodup_append']
    refine ⟨fun h => h.1, fun h => ⟨h, moved_keys_nodup keepsKey, fun k old new => ?_⟩⟩
    exact ((mem_moved_keys keepsKey).mp new).2 (knows.mem_iff.mpr old)
  · refine List.filter_eq_nil_iff.mpr fun row member isSource => ?_
    have stays : decide (owner row = target) = false := by simp_all
    obtain ⟨there, notTodo⟩ := mem_absorb (p := (owner · = target)) (fun n row => by simp [owned]) member stays
    exact notTodo (List.mem_map_of_mem (all.mem_iff.mpr (List.mem_filter.mpr ⟨there, isSource⟩)))

end Relational.Keyed
