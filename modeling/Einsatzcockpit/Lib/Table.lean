import Mathlib.Data.List.Nodup

namespace Relational

variable {α β : Type*}

/-- `UPDATE ... SET f WHERE p` on a table kept as the list of its rows. -/
def update (p : α → Bool) (f : α → α) (rows : List α) : List α :=
  rows.map fun row => if p row then f row else row

/-- The row of a result that holds exactly one, nothing otherwise. -/
def one? : List α → Option α
  | [row] => some row
  | _ => none

theorem one?_eq_some {rows : List α} {row : α} : one? rows = some row ↔ rows = [row] := by
  match rows with
  | [] => simp [one?]
  | [_] => simp [one?]
  | _ :: _ :: _ => simp [one?]

theorem mem_of_one? {rows : List α} {row : α} (found : one? rows = some row) : row ∈ rows := by
  simp [one?_eq_some.mp found]

theorem mem_update {p : α → Bool} {f : α → α} {rows : List α} {row : α} :
    row ∈ update p f rows ↔ ∃ old ∈ rows, (if p old then f old else old) = row := by
  simp [update]

theorem mem_update_of_false {p : α → Bool} {f : α → α} {rows : List α} {row : α} (member : row ∈ rows)
    (missed : p row = false) : row ∈ update p f rows :=
  mem_update.mpr ⟨row, member, by rw [missed, if_neg Bool.false_ne_true]⟩

theorem update_eq_self {p : α → Bool} {f : α → α} {rows : List α}
    (disjoint : ∀ row ∈ rows, p row = false) : update p f rows = rows := by
  induction rows with
  | nil => rfl
  | cons row rest ih =>
    have tail := ih fun r member => disjoint r (List.mem_cons_of_mem _ member)
    simp only [update, List.map_cons, disjoint row (List.mem_cons_self ..)] at tail ⊢
    simp only [tail, Bool.false_eq_true, if_false]

@[simp] theorem update_id {p : α → Bool} (rows : List α) : update p (fun row => row) rows = rows := by
  rw [update]
  simp only [ite_self, List.map_id']

theorem map_update {key : α → β} {p : α → Bool} {f : α → α} (keeps : ∀ row, key (f row) = key row) (rows : List α) :
    (update p f rows).map key = rows.map key := by
  rw [update, List.map_map]
  refine List.map_congr_left fun row _ => ?_
  simp only [Function.comp_apply]
  split
  · exact keeps row
  · rfl

theorem map_update_key [DecidableEq β] (key : α → β) (value : α) (rows : List α) :
    (update (fun row => key row == key value) (fun _ => value) rows).map key = rows.map key := by
  rw [update, List.map_map]
  refine List.map_congr_left fun row _ => ?_
  simp only [Function.comp_apply]
  split
  · next same => exact (beq_iff_eq.mp same).symm
  · rfl

@[simp] theorem length_update (p : α → Bool) (f : α → α) (rows : List α) :
    (update p f rows).length = rows.length := by
  simp [update]

section

variable (q p : α → Bool) (f : α → α) (rows : List α)
include q p f rows

theorem find?_update
    (keeps : ∀ row, p row = true → q (f row) = q row) :
    (update p f rows).find? q = (rows.find? q).map fun row => if p row then f row else row := by
  have same : (q ∘ fun row => if p row then f row else row) = q := by
    funext row
    simp only [Function.comp_apply]
    split
    · exact keeps row ‹_›
    · rfl
  rw [update, List.find?_map, same]

/-- An update that keeps a property of the rows commutes with every
selection by that property. -/
theorem filter_update
    (keeps : ∀ row, p row = true → q (f row) = q row) :
    (update p f rows).filter q = update p f (rows.filter q) := by
  induction rows with
  | nil => rfl
  | cons row rest ih =>
    have same : q (if p row then f row else row) = q row := by
      split
      · exact keeps row ‹_›
      · rfl
    simp only [update, List.map_cons, List.filter_cons, same] at ih ⊢
    split
    · simp only [List.map_cons, ih]
    · exact ih

/-- What an update takes out of a selection is gone from it, the rest stays. -/
theorem filter_update_gone
    (gone : ∀ row, p row = true → q (f row) = false) :
    (update p f rows).filter q = rows.filter fun row => q row && !p row := by
  induction rows with
  | nil => rfl
  | cons row rest ih =>
    have tail := ih
    simp only [update] at tail
    cases hit : p row with
    | true => simp [update, hit, gone row hit, tail]
    | false => simp [update, hit, List.filter_cons, tail]

theorem filter_update_disjoint
    (keeps : ∀ row, p row = true → q (f row) = q row)
    (disjoint : ∀ row, q row = true → p row = false) :
    (update p f rows).filter q = rows.filter q := by
  rw [filter_update q p f rows keeps]
  exact update_eq_self fun row member => disjoint row (List.mem_filter.mp member).2

end

theorem map_filter_update {key : α → β} {q p : α → Bool} {f : α → α} (rows : List α)
    (keeps : ∀ row, p row = true → q (f row) = q row)
    (same : ∀ row, p row = true → q row = true → key (f row) = key row) :
    ((update p f rows).filter q).map key = (rows.filter q).map key := by
  rw [filter_update q p f rows keeps, update, List.map_map]
  refine List.map_congr_left fun row member => ?_
  simp only [Function.comp_apply]
  split
  · next hit => exact same row hit (List.mem_filter.mp member).2
  · rfl

/-- Looking a row up by its key after an update of the rows with one key. -/
theorem find?_update_key [DecidableEq β] (key : α → β) (k k' : β) (f : α → α) (rows : List α)
    (keeps : ∀ row, key row = k → key (f row) = k) :
    (update (fun row => key row == k) f rows).find? (fun row => key row == k') =
      if k' = k then (rows.find? fun row => key row == k').map f
      else rows.find? fun row => key row == k' := by
  rw [find?_update _ _ f rows fun row atKey => ?_]
  · cases found : rows.find? fun row => key row == k' with
    | none => simp
    | some row =>
      have atKey : key row = k' := by simpa using List.find?_some found
      simp only [Option.map_some, atKey, beq_iff_eq]
      split <;> rfl
  · have equal : key row = k := by simpa using atKey
    simp only [keeps row equal, equal]

section Keeps

variable {q : α → Bool} {f : α → α} {rows : List α}

section

variable (keeps : ∀ row ∈ rows, q (f row) = q row)
include keeps

theorem filter_map_keeps :
    (rows.map f).filter q = (rows.filter q).map f := by
  rw [List.filter_map]
  exact congrArg _ (List.filter_congr keeps)

theorem any_map_keeps : (rows.map f).any q = rows.any q := by
  rw [Bool.eq_iff_iff, List.any_map, List.any_eq_true, List.any_eq_true]
  refine exists_congr fun row => and_congr_right fun member => ?_
  rw [Function.comp_apply, keeps row member]

theorem all_map_keeps : (rows.map f).all q = rows.all q := by
  rw [Bool.eq_iff_iff, List.all_map, List.all_eq_true, List.all_eq_true]
  refine forall₂_congr fun row member => ?_
  rw [Function.comp_apply, keeps row member]

end

end Keeps

theorem countP_set {p : α → Bool} {rows : List α} {i : Nat} {old new : α} (found : rows[i]? = some old) :
    (rows.set i new).countP p + (if p old then 1 else 0) = rows.countP p + (if p new then 1 else 0) := by
  induction rows generalizing i with
  | nil => cases found
  | cons row rest ih =>
    cases i with
    | zero =>
      cases found
      simp only [List.set_cons_zero, List.countP_cons]
      omega
    | succ i =>
      have tail := ih found
      simp only [List.set_cons_succ, List.countP_cons]
      omega

theorem countP_update_gone [DecidableEq β] (key : α → β) {rows : List α} (nodup : (rows.map key).Nodup) {row : α}
    (member : row ∈ rows) {p : α → Bool} {f : α → α} (gone : p (f row) = false) :
    (update (fun other => key other == key row) f rows).countP p + (if p row then 1 else 0) = rows.countP p := by
  induction rows with
  | nil => cases member
  | cons head rest ih =>
    rw [List.map_cons, List.nodup_cons] at nodup
    rcases List.mem_cons.mp member with rfl | inside
    · have others : ∀ other ∈ rest, (key other == key row) = false := by
        intro other isIn
        rw [beq_eq_false_iff_ne]
        intro same
        exact nodup.1 (List.mem_map.mpr ⟨other, isIn, same⟩)
      have tail := update_eq_self (f := f) others
      simp only [update] at tail
      simp only [update, List.map_cons, beq_self_eq_true, if_true, tail, List.countP_cons, gone, Bool.false_eq_true,
        if_false]
      omega
    · have differs : key head ≠ key row := fun same => nodup.1 (List.mem_map.mpr ⟨row, inside, same.symm⟩)
      have tail := ih nodup.2 inside
      simp only [update] at tail
      simp only [update, List.map_cons, beq_eq_false_iff_ne.mpr differs, Bool.false_eq_true, if_false, List.countP_cons]
      omega

theorem getElem?_set_cases {list : List α} {i j : Nat} {a b : α} (found : (list.set i a)[j]? = some b) :
    j = i ∧ b = a ∨ j ≠ i ∧ list[j]? = some b := by
  rw [List.getElem?_set] at found
  split at found
  · next same =>
    split at found
    · exact Or.inl ⟨same.symm, (Option.some.inj found).symm⟩
    · cases found
  · next other => exact Or.inr ⟨fun same => other same.symm, found⟩

theorem find?_key [BEq β] [LawfulBEq β] (key : α → β) {rows : List α} (nodup : (rows.map key).Nodup) {row : α}
    (member : row ∈ rows) : rows.find? (fun other => key other == key row) = some row := by
  obtain ⟨other, found⟩ : ∃ other, rows.find? (fun other => key other == key row) = some other :=
    Option.isSome_iff_exists.mp (List.find?_isSome.mpr ⟨row, member, beq_self_eq_true _⟩)
  have same : key other = key row := by simpa using List.find?_some found
  rw [found, List.inj_on_of_nodup_map nodup (List.mem_of_find?_eq_some found) member same]

section Numbered

/-- The keys are those an autoincrement has given out. -/
def Numbered (key : α → Nat) (rows : List α) : Prop :=
  rows.map key = List.range' 1 rows.length

namespace Numbered

variable {key : α → Nat} {rows : List α}

theorem nil : Numbered key [] := rfl

section

variable (numbered : Numbered key rows)
include numbered

theorem nodup : (rows.map key).Nodup := by
  rw [numbered]
  exact List.nodup_range'

theorem le {row : α} (member : row ∈ rows) : key row ≤ rows.length := by
  have inside : key row ∈ rows.map key := List.mem_map_of_mem member
  rw [numbered, List.mem_range'_1] at inside
  omega

theorem append {row : α} (next : key row = rows.length + 1) :
    Numbered key (rows ++ [row]) := by
  rw [Numbered, List.map_append, List.map_singleton, numbered, next, List.length_append, List.length_singleton,
    List.range'_concat, Nat.one_mul, Nat.add_comm 1]

theorem append_all {new : List α}
    (next : new.map key = List.range' (rows.length + 1) new.length) : Numbered key (rows ++ new) := by
  rw [Numbered, List.map_append, numbered, next, List.length_append, Nat.add_comm rows.length 1, List.range'_append_1]

theorem of_map {rows' : List α} (same : rows'.map key = rows.map key) :
    Numbered key rows' := by
  have length := congrArg List.length same
  rw [List.length_map, List.length_map] at length
  rw [Numbered, same, length]
  exact numbered

theorem inj {row other : α} (member : row ∈ rows) (inside : other ∈ rows)
    (same : key row = key other) : row = other :=
  List.inj_on_of_nodup_map numbered.nodup member inside same

theorem find?_of_mem {row : α} (member : row ∈ rows) :
    rows.find? (fun other => key other == key row) = some row :=
  find?_key key numbered.nodup member

end

end Numbered

end Numbered

theorem forall₂_right {R : α → β → Prop} {xs : List α} {ys : List β}
    (related : List.Forall₂ R xs ys) {y : β} (member : y ∈ ys) : ∃ x ∈ xs, R x y := by
  induction related with
  | nil => simp at member
  | cons head _ ih =>
    rcases List.mem_cons.mp member with rfl | inside
    · exact ⟨_, List.mem_cons_self .., head⟩
    · obtain ⟨x, inside', holds⟩ := ih inside
      exact ⟨x, List.mem_cons_of_mem _ inside', holds⟩

theorem forall₂_trans {R : α → α → Prop} (trans : ∀ {x y z}, R x y → R y z → R x z) {xs ys zs : List α}
    (first : List.Forall₂ R xs ys) (second : List.Forall₂ R ys zs) : List.Forall₂ R xs zs := by
  induction first generalizing zs with
  | nil => exact second
  | cons head _ ih =>
    cases second with
    | cons head' tail' => exact .cons (trans head head') (ih tail')

theorem forall₂_left {R : α → β → Prop} {xs : List α} {ys : List β}
    (related : List.Forall₂ R xs ys) {x : α} (member : x ∈ xs) : ∃ y ∈ ys, R x y := by
  obtain ⟨y, inside, holds⟩ := forall₂_right related.flip member
  exact ⟨y, inside, holds⟩

theorem filter_key [DecidableEq β] (key : α → β) {rows : List α} (nodup : (rows.map key).Nodup) {row : α}
    (member : row ∈ rows) : rows.filter (fun other => key other == key row) = [row] := by
  induction rows with
  | nil => simp at member
  | cons head rest ih =>
    rw [List.map_cons, List.nodup_cons] at nodup
    rcases List.mem_cons.mp member with rfl | inside
    · have none : rest.filter (fun other => key other == key row) = [] := by
        refine List.filter_eq_nil_iff.mpr fun other inside same => nodup.1 ?_
        exact List.mem_map.mpr ⟨other, inside, by simpa using same⟩
      rw [List.filter_cons_of_pos (by simp), none]
    · have other : key head ≠ key row := fun same => nodup.1 (List.mem_map.mpr ⟨row, inside, same.symm⟩)
      rw [List.filter_cons_of_neg (by simpa using other), ih nodup.2 inside]

theorem countP_update_key [DecidableEq β] {key : α → β} {rows : List α} (nodup : (rows.map key).Nodup) {row value : α}
    (member : row ∈ rows) (same : key row = key value) (p : α → Bool) :
    (update (fun r => key r == key value) (fun _ => value) rows).countP p + (if p row then 1 else 0) =
      rows.countP p + if p value then 1 else 0 := by
  induction rows with
  | nil => cases member
  | cons head rest ih =>
    rw [List.map_cons, List.nodup_cons] at nodup
    obtain ⟨fresh, later⟩ := nodup
    rcases List.mem_cons.mp member with rfl | inside
    · have missed : ∀ r ∈ rest, (key r == key value) = false := by
        intro r inside
        refine beq_false_of_ne fun hit => fresh ?_
        rw [same, ← hit]
        exact List.mem_map_of_mem inside
      have tail : update (fun r => key r == key value) (fun _ => value) rest = rest := update_eq_self missed
      have whole : update (fun r => key r == key value) (fun _ => value) (row :: rest) = value :: rest := by
        simp only [update, List.map_cons, same, beq_self_eq_true, if_true]
        exact congrArg (value :: ·) tail
      rw [whole, List.countP_cons, List.countP_cons]
      omega
    · have other : (key head == key value) = false := by
        refine beq_false_of_ne fun hit => fresh ?_
        rw [hit, ← same]
        exact List.mem_map_of_mem inside
      have tail := ih later inside
      have whole : update (fun r => key r == key value) (fun _ => value) (head :: rest) =
          head :: update (fun r => key r == key value) (fun _ => value) rest := by
        simp only [update, List.map_cons, other, Bool.false_eq_true, if_false]
      rw [whole, List.countP_cons, List.countP_cons]
      omega

end Relational
