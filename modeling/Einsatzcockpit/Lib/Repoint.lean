import Mathlib.Data.List.Nodup

/-! Rows are handed over one after the other in a session that does not flush
before its queries: a row finds an equal one of the new holder only once that one
has been flushed, which the joining of two rows does. -/

namespace Repoint

variable {ρ κ : Type*}

/-- How the rows are read and written: `take` hands a row over, `join` gives an
equal row of the holder what another had. -/
structure Rows (ρ κ : Type*) where
  id : ρ → Nat
  key : ρ → κ
  held : ρ → Bool
  take : ρ → ρ
  join : ρ → ρ → ρ
  id_take : ∀ row, id (take row) = id row
  key_take : ∀ row, key (take row) = key row
  held_take : ∀ row, held (take row) = true
  id_join : ∀ row other, id (join row other) = id row
  key_join : ∀ row other, key (join row other) = key row
  held_join : ∀ row other, held (join row other) = held row

/-- The rows in the session, and which of them the database shows with the new
holder. -/
structure State (ρ : Type*) where
  rows : List ρ
  visible : List Nat

/-- Which keys a query knows, which have been handed over since the last flush,
and which are still to come: none comes while it is pending. -/
def Apart [DecidableEq κ] (known pending : List κ) : List κ → Prop
  | [] => True
  | k :: todo =>
    if k ∈ known then Apart (known ++ pending) [] todo else k ∉ pending ∧ Apart known (k :: pending) todo

instance Apart.decidable [DecidableEq κ] : (known pending todo : List κ) → Decidable (Apart known pending todo)
  | _, _, [] => .isTrue trivial
  | known, pending, k :: todo =>
    have := Apart.decidable (known ++ pending) [] todo
    have := Apart.decidable known (k :: pending) todo
    inferInstanceAs (Decidable (if k ∈ known then _ else _))

variable [DecidableEq κ] (S : Rows ρ κ)

def State.survivor? (state : State ρ) (row : ρ) : Option ρ :=
  state.rows.find? fun other => S.id other ∈ state.visible && S.key other = S.key row

def State.step (state : State ρ) (row : ρ) : State ρ :=
  match state.survivor? S row with
  | none => { state with rows := state.rows.map fun other => if S.id other = S.id row then S.take other else other }
  | some survivor =>
    let rows := (state.rows.filter (S.id · ≠ S.id row)).map fun other =>
      if S.id other = S.id survivor then S.join other row else other
    { rows, visible := (rows.filter S.held).map S.id }

def start (rows : List ρ) : State ρ := { rows, visible := (rows.filter S.held).map S.id }

/-- The first row with a key, one of the holder before the others. -/
def stem (rows todo : List ρ) (k : κ) : Option ρ := (rows.filter S.held ++ todo).find? (S.key · = k)

/-- What has been joined to a row. -/
def joined (done : List ρ) (row : ρ) : List ρ := done.filter fun other => S.key other = S.key row && S.id other ≠ S.id row

/-- The row as the holder has it. -/
def taken (row : ρ) : ρ := if S.held row then row else S.take row

/-- What has become of a row once `done` has been handed over. -/
def after (rows todo done : List ρ) (row : ρ) : Option ρ :=
  if S.held row then some ((joined S done row).foldl S.join row)
  else if S.id row ∈ done.map S.id then
    if (stem S rows todo (S.key row)).map S.id = some (S.id row) then some ((joined S done row).foldl S.join (S.take row)) else none
  else some row

variable {S} {state : State ρ} {row other : ρ} {rows todo done : List ρ} {known pending : List κ} {k : κ}

omit [DecidableEq κ] in
theorem foldl_join (list : List ρ) : S.id (list.foldl S.join row) = S.id row ∧ S.key (list.foldl S.join row) = S.key row ∧
    S.held (list.foldl S.join row) = S.held row := by
  induction list generalizing row with
  | nil => exact ⟨rfl, rfl, rfl⟩
  | cons other list ih =>
    rw [List.foldl_cons]
    obtain ⟨id, key, held⟩ := @ih (S.join row other)
    exact ⟨id.trans (S.id_join ..), key.trans (S.key_join ..), held.trans (S.held_join ..)⟩

theorem after_id (found : after S rows todo done row = some other) : S.id other = S.id row ∧ S.key other = S.key row := by
  unfold after at found
  split_ifs at found
  · cases found
    exact ⟨(foldl_join _).1, (foldl_join _).2.1⟩
  · cases found
    exact ⟨(foldl_join _).1.trans (S.id_take _), (foldl_join _).2.1.trans (S.key_take _)⟩
  · cases found
    exact ⟨rfl, rfl⟩

theorem step_persists (member : other ∈ state.rows) (held : S.held other = true) (apart : S.id other ≠ S.id row) :
    ∃ later ∈ (state.step S row).rows, S.id later = S.id other ∧ S.key later = S.key other ∧ S.held later = true := by
  unfold State.step
  split
  · exact ⟨other, List.mem_map.mpr ⟨other, member, if_neg apart⟩, rfl, rfl, held⟩
  · next survivor _ =>
    have kept : other ∈ state.rows.filter (S.id · ≠ S.id row) := List.mem_filter.mpr ⟨member, decide_eq_true apart⟩
    by_cases isSurvivor : S.id other = S.id survivor
    · exact ⟨S.join other row, List.mem_map.mpr ⟨other, kept, if_pos isSurvivor⟩, S.id_join .., S.key_join ..,
        (S.held_join ..).trans held⟩
    · exact ⟨other, List.mem_map.mpr ⟨other, kept, if_neg isSurvivor⟩, rfl, rfl, held⟩

theorem run_persists (member : other ∈ state.rows) (held : S.held other = true) (apart : S.id other ∉ todo.map S.id) :
    ∃ later ∈ (todo.foldl (State.step S) state).rows,
      S.id later = S.id other ∧ S.key later = S.key other ∧ S.held later = true := by
  induction todo generalizing state other with
  | nil => exact ⟨other, member, rfl, rfl, held⟩
  | cons row todo ih =>
    rw [List.map_cons, List.mem_cons, not_or] at apart
    obtain ⟨next, isNext, id, key, stillHeld⟩ := step_persists member held apart.1
    obtain ⟨later, isLater, id', key', laterHeld⟩ := ih isNext stillHeld (by rw [id]; exact apart.2)
    exact ⟨later, isLater, id'.trans id, key'.trans key, laterHeld⟩

/-- The keys of the holder's rows. -/
def heldKeys (S : Rows ρ κ) (rows : List ρ) : List κ := (rows.filter S.held).map S.key

theorem not_nodup {a b : ρ} (aMember : a ∈ state.rows) (bMember : b ∈ state.rows) (aHeld : S.held a = true)
    (bHeld : S.held b = true) (sameKey : S.key a = S.key b) (differ : S.id a ≠ S.id b) (aApart : S.id a ∉ todo.map S.id)
    (bApart : S.id b ∉ todo.map S.id) : ¬ (heldKeys S (todo.foldl (State.step S) state).rows).Nodup := by
  intro nodup
  obtain ⟨a', isA, aId, aKey, a'Held⟩ := run_persists aMember aHeld aApart
  obtain ⟨b', isB, bId, bKey, b'Held⟩ := run_persists bMember bHeld bApart
  have same : a' = b' := List.inj_on_of_nodup_map nodup (List.mem_filter.mpr ⟨isA, a'Held⟩)
    (List.mem_filter.mpr ⟨isB, b'Held⟩) (by rw [aKey, bKey, sameKey])
  rw [← aId, ← bId, same] at differ
  exact differ rfl

/-- The rows of a hand-over: they have ids of their own, and `todo` are some
that the holder does not have. -/
structure Sound (S : Rows ρ κ) (rows todo : List ρ) : Prop where
  ids : (rows.map S.id).Nodup
  todoIds : (todo.map S.id).Nodup
  todoRows : ∀ row ∈ todo, row ∈ rows ∧ S.held row = false

section Sound

omit [DecidableEq κ] in
theorem Sound.inj (sound : Sound S rows todo) (member : row ∈ rows) (otherMember : other ∈ rows) (same : S.id row = S.id other) : row = other :=
  List.inj_on_of_nodup_map sound.ids member otherMember same

theorem stem_mem (sound : Sound S rows todo) {stemRow : ρ} (found : stem S rows todo k = some stemRow) :
    stemRow ∈ rows ∧ S.key stemRow = k ∧ (S.held stemRow = true ∨ stemRow ∈ todo) := by
  have member := List.mem_of_find?_eq_some found
  have key : S.key stemRow = k := by simpa using List.find?_some found
  rcases List.mem_append.mp member with held | inTodo
  · exact ⟨(List.mem_filter.mp held).1, key, Or.inl (List.mem_filter.mp held).2⟩
  · exact ⟨(sound.todoRows _ inTodo).1, key, Or.inr inTodo⟩

theorem stem_held (nodup : (heldKeys S rows).Nodup) (member : row ∈ rows) (held : S.held row = true) :
    stem S rows todo (S.key row) = some row := by
  have inside : row ∈ rows.filter S.held := List.mem_filter.mpr ⟨member, held⟩
  rw [stem, List.find?_append]
  cases found : (rows.filter S.held).find? (S.key · = S.key row) with
  | none => exact absurd (List.find?_eq_none.mp found row inside) (by simp)
  | some first =>
    have key : S.key first = S.key row := by simpa using List.find?_some found
    rw [Option.some_or, List.inj_on_of_nodup_map nodup (List.mem_of_find?_eq_some found) inside key]

end Sound

/-- The hand-over stands after `done`: what has become of the rows, what the
queries see, and which keys are known and pending. -/
structure Standing (S : Rows ρ κ) (rows todo done : List ρ) (known pending : List κ) (state : State ρ) : Prop where
  rows_eq : state.rows = rows.filterMap (after S rows todo done)
  visible : ∀ row ∈ rows, S.id row ∈ state.visible ↔ S.held row = true ∨
    S.id row ∈ done.map S.id ∧ (stem S rows todo (S.key row)).map S.id = some (S.id row) ∧ S.key row ∈ known
  heldKnown : ∀ row ∈ rows, S.held row = true → S.key row ∈ known
  doneKnown : ∀ row ∈ done, S.key row ∈ known ∨ S.key row ∈ pending
  known_sub : ∀ k ∈ known, (∃ row ∈ rows, S.held row = true ∧ S.key row = k) ∨ ∃ row ∈ done, S.key row = k
  pending_sub : ∀ k ∈ pending, ∃ row ∈ done, S.key row = k

section Step

variable {rest : List ρ} (sound : Sound S rows todo) (nodup : (heldKeys S rows).Nodup)
  (split : todo = done ++ row :: rest)
  (standing : Standing S rows todo done known pending state)

include sound split in
omit [DecidableEq κ] in
theorem mem_done (member : other ∈ rows) : S.id other ∈ done.map S.id ↔ other ∈ done := by
  refine ⟨fun inside => ?_, List.mem_map_of_mem⟩
  obtain ⟨same, isDone, id⟩ := List.mem_map.mp inside
  have isRow := (sound.todoRows same (by rw [split]; exact List.mem_append_left _ isDone)).1
  exact sound.inj member isRow id.symm ▸ isDone

include sound split in
omit [DecidableEq κ] in
theorem next_row : row ∈ rows ∧ S.held row = false ∧ S.id row ∉ done.map S.id := by
  obtain ⟨isRow, notHeld⟩ := sound.todoRows row (by rw [split]; simp)
  refine ⟨isRow, notHeld, fun inside => ?_⟩
  have ids := sound.todoIds
  rw [split, List.map_append, List.map_cons, List.nodup_append'] at ids
  exact ids.2.2 inside (List.mem_cons_self ..)

theorem joined_append : joined S (done ++ [row]) other =
    joined S done other ++ if S.key row = S.key other ∧ S.id row ≠ S.id other then [row] else [] := by
  rw [joined, List.filter_append]
  congr 1
  by_cases same : S.key row = S.key other <;> by_cases id : S.id row = S.id other <;> simp [same, id]

include sound split in
theorem stem_before (before : ∃ other ∈ rows.filter S.held ++ done, S.key other = k) :
    ∃ first, stem S rows todo k = some first ∧ first ∈ rows ∧ S.key first = k ∧ (S.held first = true ∨ first ∈ done) := by
  obtain ⟨other, inside, key⟩ := before
  have shape : stem S rows todo k = ((rows.filter S.held ++ done) ++ row :: rest).find? (S.key · = k) := by
    rw [stem, split, List.append_assoc]
  rw [List.find?_append] at shape
  cases found : (rows.filter S.held ++ done).find? (S.key · = k) with
  | none => exact absurd key (by simpa using List.find?_eq_none.mp found other inside)
  | some first =>
    rw [found, Option.some_or] at shape
    have isStem := stem_mem sound shape
    refine ⟨first, shape, isStem.1, isStem.2.1, ?_⟩
    rcases List.mem_append.mp (List.mem_of_find?_eq_some found) with held | isDone
    · exact Or.inl (List.mem_filter.mp held).2
    · exact Or.inr isDone

include sound split standing in
theorem known_stem (known_ : k ∈ known) :
    ∃ first, stem S rows todo k = some first ∧ first ∈ rows ∧ S.key first = k ∧ (S.held first = true ∨ first ∈ done) := by
  refine stem_before sound split ?_
  rcases standing.known_sub k known_ with ⟨other, member, held, key⟩ | ⟨other, isDone, key⟩
  · exact ⟨other, List.mem_append_left _ (List.mem_filter.mpr ⟨member, held⟩), key⟩
  · exact ⟨other, List.mem_append_right _ isDone, key⟩

include sound nodup split standing in
theorem survivor_known (known_ : S.key row ∈ known) : ∃ first survivor, stem S rows todo (S.key row) = some first ∧
    first ∈ rows ∧ S.key first = S.key row ∧ (S.held first = true ∨ first ∈ done) ∧
    after S rows todo done first = some survivor ∧ state.survivor? S row = some survivor := by
  obtain ⟨first, isStem, isRow, key, handed⟩ := known_stem sound split standing known_
  have stemId : (stem S rows todo (S.key first)).map S.id = some (S.id first) := by rw [key, isStem, Option.map_some]
  have become : ∃ survivor, after S rows todo done first = some survivor := by
    unfold after
    rcases handed with held | isDone
    · exact ⟨_, if_pos held⟩
    · by_cases held : S.held first = true
      · exact ⟨_, if_pos held⟩
      · rw [if_neg held, if_pos (List.mem_map_of_mem isDone), if_pos stemId]
        exact ⟨_, rfl⟩
  obtain ⟨survivor, isAfter⟩ := become
  refine ⟨first, survivor, isStem, isRow, key, handed, isAfter, ?_⟩
  have ids := after_id isAfter
  have isVisible : S.id first ∈ state.visible := (standing.visible first isRow).mpr (handed.imp_right fun isDone =>
    ⟨List.mem_map_of_mem isDone, stemId, key ▸ known_⟩)
  have inside : survivor ∈ state.rows := by
    rw [standing.rows_eq]
    exact List.mem_filterMap.mpr ⟨first, isRow, isAfter⟩
  cases found : state.survivor? S row with
  | none =>
    have fails := List.find?_eq_none.mp found survivor inside
    rw [ids.1, ids.2, key] at fails
    simp [isVisible] at fails
  | some candidate =>
    have holds : S.id candidate ∈ state.visible ∧ S.key candidate = S.key row := by
      simpa using List.find?_some found
    have isCandidate := List.mem_of_find?_eq_some found
    rw [standing.rows_eq] at isCandidate
    obtain ⟨origin, originRow, originAfter⟩ := List.mem_filterMap.mp isCandidate
    have originIds := after_id originAfter
    have stemOrigin : (stem S rows todo (S.key origin)).map S.id = some (S.id origin) := by
      rcases (standing.visible origin originRow).mp (originIds.1 ▸ holds.1) with held | ⟨-, isStem, -⟩
      · rw [stem_held nodup originRow held, Option.map_some]
      · exact isStem
    have sameId : S.id origin = S.id first := by
      rw [← originIds.2, holds.2, isStem, Option.map_some] at stemOrigin
      exact (Option.some.inj stemOrigin).symm
    rw [sound.inj originRow isRow sameId, isAfter] at originAfter
    rw [originAfter]

theorem after_open (notHeld : S.held other = false) (open_ : S.id other ∉ done.map S.id) :
    after S rows todo done other = some other := by
  rw [after, if_neg (by simp [notHeld]), if_neg open_]

omit [DecidableEq κ] in
theorem taken_id : S.id (taken S row) = S.id row ∧ S.key (taken S row) = S.key row ∧ S.held (taken S row) = true := by
  unfold taken
  split
  · next held => exact ⟨rfl, rfl, held⟩
  · exact ⟨S.id_take _, S.key_take _, S.held_take _⟩

theorem after_stem (handed : S.held other = true ∨ other ∈ done)
    (isStem : (stem S rows todo (S.key other)).map S.id = some (S.id other)) :
    after S rows todo done other =
      some ((joined S done other).foldl S.join (taken S other)) := by
  unfold after taken
  cases held : S.held other with
  | true => rw [if_pos rfl, if_pos rfl]
  | false =>
    rw [held] at handed
    rw [if_neg Bool.false_ne_true, if_neg Bool.false_ne_true, if_pos (List.mem_map_of_mem (handed.resolve_left nofun)),
      if_pos isStem]

theorem after_gone (notHeld : S.held other = false) (isDone : other ∈ done)
    (notStem : (stem S rows todo (S.key other)).map S.id ≠ some (S.id other)) : after S rows todo done other = none := by
  rw [after, if_neg (by simp [notHeld]), if_pos (List.mem_map_of_mem isDone), if_neg notStem]

include sound nodup split in
theorem after_join {first survivor x : ρ} (isStem : stem S rows todo (S.key row) = some first) (firstRow : first ∈ rows)
    (key : S.key first = S.key row) (handed : S.held first = true ∨ first ∈ done)
    (isAfter : after S rows todo done first = some survivor) (member : x ∈ rows) :
    after S rows todo (done ++ [row]) x = ((after S rows todo done x).filter fun o => S.id o ≠ S.id row).map fun o =>
      if S.id o = S.id survivor then S.join o row else o := by
  obtain ⟨isRow, notHeld, notDone⟩ := next_row sound split
  have survivorId := (after_id isAfter).1
  have firstNotRow : S.id row ≠ S.id first := by
    intro same
    rcases handed with held | isDone
    · rw [← sound.inj isRow firstRow same, notHeld] at held
      cases held
    · exact notDone (same ▸ List.mem_map_of_mem isDone)
  by_cases isNext : S.id x = S.id row
  · rw [sound.inj member isRow isNext, after_open notHeld notDone, after_gone notHeld (by simp) (by
      rw [isStem, Option.map_some]
      exact fun same => firstNotRow (Option.some.inj same).symm)]
    have drops : (some row).filter (fun o => S.id o ≠ S.id row) = none := by simp [Option.filter]
    rw [drops]
    rfl
  have keeps : ∀ o, S.id o = S.id x → (some o).filter (fun o => S.id o ≠ S.id row) = some o := by
    intro o same
    simp [Option.filter, same, isNext]
  by_cases handedX : S.held x = true ∨ x ∈ done
  · have handedLater : S.held x = true ∨ x ∈ done ++ [row] := handedX.imp_right (List.mem_append_left _)
    by_cases stemX : (stem S rows todo (S.key x)).map S.id = some (S.id x)
    · rw [after_stem handedX stemX, after_stem handedLater stemX, joined_append,
        keeps _ ((foldl_join _).1.trans taken_id.1), Option.map_some, (foldl_join _).1.trans taken_id.1, survivorId]
      by_cases isFirst : S.id x = S.id first
      · have same := sound.inj member firstRow isFirst
        rw [if_pos ⟨by rw [same, key], by rw [same]; exact firstNotRow⟩, List.foldl_append, List.foldl_cons, List.foldl_nil,
          if_pos isFirst]
      · have otherKey : S.key row ≠ S.key x := by
          intro same
          rw [← same, isStem, Option.map_some] at stemX
          exact isFirst (Option.some.inj stemX).symm
        rw [if_neg fun both => otherKey both.1, List.append_nil, if_neg isFirst]
    · have notHeldX : S.held x = false := by
        by_contra held
        exact stemX (by rw [stem_held nodup member (by simpa using held), Option.map_some])
      have isDone := handedX.resolve_left (by simp [notHeldX])
      rw [after_gone notHeldX isDone stemX, after_gone notHeldX (List.mem_append_left _ isDone) stemX]
      rfl
  · rw [not_or, Bool.not_eq_true] at handedX
    have openX : S.id x ∉ done.map S.id := fun inside => handedX.2 ((mem_done sound split member).mp inside)
    have openLater : S.id x ∉ (done ++ [row]).map S.id := by simp_all
    have notFirst : S.id x ≠ S.id first := by
      intro same
      rw [← sound.inj member firstRow same] at handed
      exact handed.elim (fun held => by simp [handedX.1] at held) handedX.2
    rw [after_open handedX.1 openX, after_open handedX.1 openLater, keeps x rfl, Option.map_some, survivorId,
      if_neg notFirst]

include sound split in
theorem after_take {x : ρ} (fresh : ∀ other ∈ rows, S.held other = true ∨ other ∈ done → S.key other ≠ S.key row)
    (member : x ∈ rows) :
    after S rows todo (done ++ [row]) x = (after S rows todo done x).map fun o =>
      if S.id o = S.id row then S.take o else o := by
  obtain ⟨isRow, notHeld, notDone⟩ := next_row sound split
  have isStem : stem S rows todo (S.key row) = some row := by
    have shape : stem S rows todo (S.key row) = ((rows.filter S.held ++ done) ++ row :: rest).find? (S.key · = S.key row) := by
      rw [stem, split, List.append_assoc]
    have none : (rows.filter S.held ++ done).find? (S.key · = S.key row) = none := by
      refine List.find?_eq_none.mpr fun other inside => ?_
      rw [decide_eq_true_eq]
      rcases List.mem_append.mp inside with held | isDone
      · exact fresh other (List.mem_filter.mp held).1 (Or.inl (List.mem_filter.mp held).2)
      · have isOther := (sound.todoRows other (by rw [split]; exact List.mem_append_left _ isDone)).1
        exact fresh other isOther (Or.inr isDone)
    rw [shape, List.find?_append, none, Option.none_or, List.find?_cons_of_pos (by simp)]
  by_cases isNext : S.id x = S.id row
  · have same := sound.inj member isRow isNext
    have alone : joined S (done ++ [row]) row = [] := by
      rw [joined_append, if_neg fun both => both.2 rfl, List.append_nil, joined]
      refine List.filter_eq_nil_iff.mpr fun other isDone => ?_
      have isOther := (sound.todoRows other (by rw [split]; exact List.mem_append_left _ isDone)).1
      simp [fresh other isOther (Or.inr isDone)]
    rw [same, after_open notHeld notDone, Option.map_some, if_pos rfl,
      after_stem (Or.inr (by simp)) (by rw [isStem, Option.map_some]), alone, taken, notHeld]
    rfl
  have keeps : ∀ y, after S rows todo done x = some y → (if S.id y = S.id row then S.take y else y) = y :=
    fun y found => if_neg (by rw [(after_id found).1]; exact isNext)
  have unchanged : (after S rows todo done x).map (fun o => if S.id o = S.id row then S.take o else o) =
      after S rows todo done x := by
    cases found : after S rows todo done x with
    | none => rfl
    | some y => rw [Option.map_some, keeps y found]
  rw [unchanged]
  by_cases handedX : S.held x = true ∨ x ∈ done
  · have otherKey := fresh x member handedX
    have sameJoined : joined S (done ++ [row]) x = joined S done x := by
      rw [joined_append, if_neg fun both => otherKey both.1.symm, List.append_nil]
    have sameDone : S.id x ∈ (done ++ [row]).map S.id ↔ S.id x ∈ done.map S.id := by simp [isNext]
    simp only [after, sameJoined, sameDone]
  · rw [not_or, Bool.not_eq_true] at handedX
    have openX : S.id x ∉ done.map S.id := fun inside => handedX.2 ((mem_done sound split member).mp inside)
    rw [after_open handedX.1 openX, after_open handedX.1 (by simp_all)]

theorem held_after (notDone : S.held other = true ∨ S.id other ∈ done.map S.id) (found : after S rows todo done other = some row) :
    S.held row = true := by
  unfold after at found
  split_ifs at found with held
  · cases found
    exact (foldl_join _).2.2.trans held
  · cases found
    exact (foldl_join _).2.2.trans (S.held_take _)
  · exact absurd (notDone.resolve_left held) (by assumption)

include sound nodup split standing in
/-- A row whose key is known is joined to the first row of that key; the flush
shows everything that has been handed over. -/
theorem Standing.join (known_ : S.key row ∈ known) :
    Standing S rows todo (done ++ [row]) (known ++ pending) [] (state.step S row) := by
  obtain ⟨first, survivor, isStem, firstRow, key, handed, isAfter, found⟩ := survivor_known sound nodup split standing known_
  obtain ⟨isRow, notHeld, notDone⟩ := next_row sound split
  have rowsEq : (state.step S row).rows = rows.filterMap (after S rows todo (done ++ [row])) := by
    rw [State.step, found]
    dsimp only
    rw [standing.rows_eq, List.filter_filterMap, List.map_filterMap]
    exact List.filterMap_congr fun x member =>
      (after_join sound nodup split isStem firstRow key handed isAfter member).symm
  have visibleEq : (state.step S row).visible = ((state.step S row).rows.filter S.held).map S.id := by
    rw [State.step, found]
  have doneKnown : ∀ other ∈ done ++ [row], S.key other ∈ known ++ pending := by
    intro other member
    rcases List.mem_append.mp member with old | new
    · exact List.mem_append.mpr (standing.doneKnown other old)
    · rw [List.mem_singleton.mp new]
      exact List.mem_append_left _ known_
  refine ⟨rowsEq, fun x member => ?_, fun x member held => List.mem_append_left _ (standing.heldKnown x member held),
    fun other member => Or.inl (doneKnown other member), fun k member => ?_, nofun⟩
  · rw [visibleEq, rowsEq]
    constructor
    · intro inside
      obtain ⟨y, isHeld, id⟩ := List.mem_map.mp inside
      obtain ⟨isLater, yHeld⟩ := List.mem_filter.mp isHeld
      obtain ⟨origin, originRow, originAfter⟩ := List.mem_filterMap.mp isLater
      have same : origin = x := sound.inj originRow member ((after_id originAfter).1.symm.trans id)
      rw [same] at originAfter
      cases held : S.held x with
      | true => exact Or.inl rfl
      | false =>
        right
        have isDone : S.id x ∈ (done ++ [row]).map S.id := by
          by_contra open_
          rw [after_open held open_] at originAfter
          rw [← Option.some.inj originAfter, held] at yHeld
          cases yHeld
        refine ⟨isDone, ?_, ?_⟩
        · by_contra notStem
          rw [after, if_neg (by simp [held]), if_pos isDone, if_neg notStem] at originAfter
          cases originAfter
        · obtain ⟨same, isDone', id'⟩ := List.mem_map.mp isDone
          have sameRow : same ∈ rows := by
            rcases List.mem_append.mp isDone' with old | new
            · exact (sound.todoRows same (by rw [split]; exact List.mem_append_left _ old)).1
            · rw [List.mem_singleton.mp new]
              exact isRow
          rw [← sound.inj sameRow member id']
          exact doneKnown same isDone'
    · intro cond
      have become : ∃ y, after S rows todo (done ++ [row]) x = some y := by
        unfold after
        rcases cond with held | ⟨isDone, stemX, -⟩
        · exact ⟨_, if_pos held⟩
        · by_cases held : S.held x = true
          · exact ⟨_, if_pos held⟩
          · rw [if_neg held, if_pos isDone, if_pos stemX]
            exact ⟨_, rfl⟩
      obtain ⟨y, isY⟩ := become
      refine List.mem_map.mpr ⟨y, List.mem_filter.mpr ⟨List.mem_filterMap.mpr ⟨x, member, isY⟩, ?_⟩, (after_id isY).1⟩
      exact held_after (cond.imp_right And.left) isY
  · rcases List.mem_append.mp member with old | new
    · exact (standing.known_sub k old).imp_right fun ⟨other, isDone, key⟩ => ⟨other, List.mem_append_left _ isDone, key⟩
    · obtain ⟨other, isDone, key⟩ := standing.pending_sub k new
      exact Or.inr ⟨other, List.mem_append_left _ isDone, key⟩

include sound split in
omit [DecidableEq κ] in
theorem apart_rest (member : other ∈ rows) (handed : S.held other = true ∨ other ∈ done) :
    S.id row ∉ rest.map S.id ∧ S.id other ∉ rest.map S.id ∧ S.id other ≠ S.id row := by
  obtain ⟨isRow, notHeld, notDone⟩ := next_row sound split
  have ids := sound.todoIds
  rw [split, List.map_append, List.map_cons, List.nodup_append'] at ids
  refine ⟨(List.nodup_cons.mp ids.2.1).1, fun inside => ?_, fun same => ?_⟩
  · obtain ⟨later, isLater, id⟩ := List.mem_map.mp inside
    obtain ⟨laterRow, laterOpen⟩ := sound.todoRows later (by rw [split]; simp [isLater])
    have isOther := sound.inj laterRow member id
    rcases handed with held | isDone
    · rw [← isOther, laterOpen] at held
      cases held
    · exact ids.2.2 (List.mem_map_of_mem isDone) (List.mem_cons_of_mem _ inside)
  · rcases handed with held | isDone
    · rw [sound.inj member isRow same, notHeld] at held
      cases held
    · exact notDone (same ▸ List.mem_map_of_mem isDone)

include standing in
/-- The query finds nothing for a key that is not known, and the row is handed over. -/
theorem step_unknown (unknown : S.key row ∉ known) : state.step S row =
    { state with rows := state.rows.map fun other => if S.id other = S.id row then S.take other else other } := by
  have unseen : state.survivor? S row = none := by
    refine List.find?_eq_none.mpr fun y member => ?_
    rw [standing.rows_eq] at member
    obtain ⟨x, isX, isAfter⟩ := List.mem_filterMap.mp member
    have ids := after_id isAfter
    rw [Bool.and_eq_true, decide_eq_true_eq, decide_eq_true_eq, ids.1, ids.2, standing.visible x isX]
    rintro ⟨held | ⟨-, -, isKnown⟩, same⟩
    · exact unknown (same ▸ standing.heldKnown x isX held)
    · exact unknown (same ▸ isKnown)
  rw [State.step, unseen]

include sound split standing in
/-- A row whose key is new is handed over, and stays unseen until the next flush. -/
theorem Standing.take (unknown : S.key row ∉ known) (notPending : S.key row ∉ pending) :
    Standing S rows todo (done ++ [row]) known (S.key row :: pending) (state.step S row) := by
  obtain ⟨isRow, notHeld, notDone⟩ := next_row sound split
  have fresh : ∀ other ∈ rows, S.held other = true ∨ other ∈ done → S.key other ≠ S.key row := by
    intro other member handed same
    rcases handed with held | isDone
    · exact unknown (same ▸ standing.heldKnown other member held)
    · exact (standing.doneKnown other isDone).elim (same ▸ unknown) (same ▸ notPending)
  rw [step_unknown standing unknown]
  refine ⟨?_, fun x member => ?_, standing.heldKnown, fun other member => ?_, fun k member => ?_, fun k member => ?_⟩
  · dsimp only
    rw [standing.rows_eq, List.map_filterMap]
    exact List.filterMap_congr fun x member => (after_take sound split fresh member).symm
  · rw [standing.visible x member]
    refine or_congr_right ⟨fun cond => ⟨by simp [cond.1], cond.2⟩, fun cond => ⟨?_, cond.2⟩⟩
    obtain ⟨isDone, -, isKnown⟩ := cond
    rw [List.map_append, List.mem_append] at isDone
    refine isDone.resolve_right fun isNext => unknown ?_
    rw [← sound.inj member isRow (by simpa using isNext)]
    exact isKnown
  · rcases List.mem_append.mp member with old | new
    · exact (standing.doneKnown other old).imp_right (List.mem_cons_of_mem _)
    · rw [List.mem_singleton.mp new]
      exact Or.inr (List.mem_cons_self ..)
  · exact (standing.known_sub k member).imp_right fun ⟨other, isDone, key⟩ => ⟨other, List.mem_append_left _ isDone, key⟩
  · rcases List.mem_cons.mp member with rfl | old
    · exact ⟨row, by simp, rfl⟩
    · obtain ⟨other, isDone, key⟩ := standing.pending_sub k old
      exact ⟨other, List.mem_append_left _ isDone, key⟩

end Step

theorem start_standing (sound : Sound S rows todo) : Standing S rows todo [] (heldKeys S rows) [] (start S rows) := by
  refine ⟨?_, fun x member => ?_, fun x member held => List.mem_map_of_mem (List.mem_filter.mpr ⟨member, held⟩), nofun,
    fun k member => ?_, nofun⟩
  · refine (List.filterMap_some.symm.trans (List.filterMap_congr fun x member => ?_))
    unfold after
    split
    · rfl
    · simp
  · simp only [start, List.map_nil, List.not_mem_nil, false_and, or_false]
    constructor
    · intro inside
      obtain ⟨same, isHeld, id⟩ := List.mem_map.mp inside
      obtain ⟨isRow, held⟩ := List.mem_filter.mp isHeld
      exact sound.inj isRow member id ▸ held
    · exact fun held => List.mem_map_of_mem (List.mem_filter.mpr ⟨member, held⟩)
  · obtain ⟨x, isHeld, key⟩ := List.mem_map.mp member
    obtain ⟨isRow, held⟩ := List.mem_filter.mp isHeld
    exact Or.inl ⟨x, isRow, held, key⟩

section Run

variable {rest : List ρ} (sound : Sound S rows todo) (nodup : (heldKeys S rows).Nodup)

include sound nodup

section

variable (split : todo = done ++ rest) (standing : Standing S rows todo done known pending state)
include split standing

/-- A hand-over in which no row comes while its key is pending goes by the plan. -/
theorem Standing.run
    (apart : Apart known pending (rest.map S.key)) :
    ∃ known pending, Standing S rows todo todo known pending (rest.foldl (State.step S) state) := by
  induction rest generalizing done known pending state with
  | nil =>
    rw [List.append_nil] at split
    exact ⟨known, pending, split ▸ standing⟩
  | cons row rest ih =>
    rw [List.map_cons, Apart] at apart
    rw [List.foldl_cons]
    split_ifs at apart with known_
    · exact ih (by rw [split, List.append_assoc]; rfl) (standing.join sound nodup split known_) apart
    · exact ih (by rw [split, List.append_assoc]; rfl) (standing.take sound split known_ apart.1) apart.2

/-- Where a row comes while its key is pending, the holder ends with two rows of
one key. -/
theorem Standing.apart
    (final : (heldKeys S (rest.foldl (State.step S) state).rows).Nodup) : Apart known pending (rest.map S.key) := by
  induction rest generalizing done known pending state with
  | nil => trivial
  | cons row rest ih =>
    rw [List.map_cons, Apart]
    rw [List.foldl_cons] at final
    split_ifs with known_
    · exact ih (by rw [split, List.append_assoc]; rfl) (standing.join sound nodup split known_) final
    · have notPending : S.key row ∉ pending := by
        intro isPending
        obtain ⟨other, isDone, key⟩ := standing.pending_sub _ isPending
        obtain ⟨first, isStem, firstRow, firstKey, handed⟩ :=
          stem_before sound split ⟨other, List.mem_append_right _ isDone, key⟩
        obtain ⟨isRow, notHeld, notDone⟩ := next_row sound split
        obtain ⟨open_, openFirst, differ⟩ := apart_rest sound split firstRow handed
        have stemId : (stem S rows todo (S.key first)).map S.id = some (S.id first) := by
          rw [firstKey, isStem, Option.map_some]
        have isAfter := after_stem handed stemId
        have ids := after_id isAfter
        have aHeld := held_after (handed.imp_right List.mem_map_of_mem) isAfter
        generalize (joined S done first).foldl S.join (taken S first) = y at isAfter ids aHeld
        rw [step_unknown standing known_, standing.rows_eq] at final
        have firstMember := List.mem_map_of_mem (f := fun other => if S.id other = S.id row then S.take other else other)
          (List.mem_filterMap.mpr ⟨first, firstRow, isAfter⟩)
        have rowIn : row ∈ rows.filterMap (after S rows todo done) :=
          List.mem_filterMap.mpr ⟨row, isRow, after_open notHeld notDone⟩
        have rowMember := List.mem_map_of_mem (f := fun other => if S.id other = S.id row then S.take other else other) rowIn
        rw [if_neg (by rw [ids.1]; exact differ)] at firstMember
        rw [if_pos rfl] at rowMember
        refine not_nodup firstMember rowMember aHeld (S.held_take row) ?_ ?_ ?_ ?_ final
        · rw [ids.2, firstKey, S.key_take]
        · rw [ids.1, S.id_take]
          exact differ
        · rw [ids.1]
          exact openFirst
        · rw [S.id_take]
          exact open_
      exact ⟨notPending, ih (by rw [split, List.append_assoc]; rfl) (standing.take sound split known_ notPending) final⟩

end

end Run

section

variable (sound : Sound S rows todo)
include sound

theorem run_rows (nodup : (heldKeys S rows).Nodup)
    (apart : Apart (heldKeys S rows) [] (todo.map S.key)) :
    (todo.foldl (State.step S) (start S rows)).rows = rows.filterMap (after S rows todo todo) := by
  obtain ⟨_, _, standing⟩ := (start_standing sound).run sound nodup rfl apart
  exact standing.rows_eq

theorem stem_of_held (nodup : (heldKeys S rows).Nodup) (member : row ∈ rows)
    (found : after S rows todo todo row = some other) (held : S.held other = true) :
    (S.held row = true ∨ row ∈ todo) ∧ (stem S rows todo (S.key row)).map S.id = some (S.id row) := by
  unfold after at found
  split_ifs at found with heldRow isTodo isStem
  · exact ⟨Or.inl heldRow, by rw [stem_held nodup member heldRow, Option.map_some]⟩
  · obtain ⟨same, isSame, id⟩ := List.mem_map.mp isTodo
    exact ⟨Or.inr (sound.inj (sound.todoRows same isSame).1 member id ▸ isSame), isStem⟩
  · cases found
    exact absurd held heldRow

theorem filterMap_after_nodup : (rows.filterMap (after S rows todo done)).Nodup := by
  have ids := sound.ids
  rw [List.Nodup, List.pairwise_map] at ids
  rw [List.Nodup, List.pairwise_filterMap]
  refine ids.imp fun {a a'} differ b isB b' isB' same => differ ?_
  rw [← (after_id isB).1, ← (after_id isB').1, same]

/-- The holder ends with one row for each key just if it began so and no row
came while its key was pending. -/
theorem run_nodup_iff :
    (heldKeys S (todo.foldl (State.step S) (start S rows)).rows).Nodup ↔
      (heldKeys S rows).Nodup ∧ Apart (heldKeys S rows) [] (todo.map S.key) := by
  constructor
  · intro final
    have nodup : (heldKeys S rows).Nodup := by
      refine List.Nodup.map_on (fun a aMember b bMember sameKey => by_contra fun differ => ?_)
        (List.Nodup.filter _ (List.Nodup.of_map _ sound.ids))
      obtain ⟨aRow, aHeld⟩ := List.mem_filter.mp aMember
      obtain ⟨bRow, bHeld⟩ := List.mem_filter.mp bMember
      have open_ : ∀ x ∈ rows, S.held x = true → S.id x ∉ todo.map S.id := by
        intro x isRow held inside
        obtain ⟨same, isTodo, id⟩ := List.mem_map.mp inside
        obtain ⟨sameRow, notHeld⟩ := sound.todoRows same isTodo
        rw [sound.inj sameRow isRow id, held] at notHeld
        cases notHeld
      have aStart : a ∈ (start S rows).rows := aRow
      exact not_nodup aStart bRow aHeld bHeld sameKey
        (fun id => differ (sound.inj aRow bRow id)) (open_ a aRow aHeld) (open_ b bRow bHeld) final
    exact ⟨nodup, (start_standing sound).apart sound nodup rfl final⟩
  · rintro ⟨nodup, apart⟩
    rw [heldKeys, run_rows sound nodup apart]
    refine List.Nodup.map_on (fun a aMember b bMember sameKey => ?_) (List.Nodup.filter _ (filterMap_after_nodup sound))
    obtain ⟨aIn, aHeld⟩ := List.mem_filter.mp aMember
    obtain ⟨bIn, bHeld⟩ := List.mem_filter.mp bMember
    obtain ⟨x, xRow, isA⟩ := List.mem_filterMap.mp aIn
    obtain ⟨y, yRow, isB⟩ := List.mem_filterMap.mp bIn
    have xStem := (stem_of_held sound nodup xRow isA aHeld).2
    have yStem := (stem_of_held sound nodup yRow isB bHeld).2
    rw [(after_id isA).2, (after_id isB).2] at sameKey
    rw [sameKey, yStem] at xStem
    rw [sound.inj xRow yRow (Option.some.inj xStem).symm, isB] at isA
    exact (Option.some.inj isA).symm

end

/-- In other words: a key the holder lacks comes a second time only after a row
with a key that the holder or an earlier row has, from that key's first row on. -/
theorem apart_iff {keys : List κ} : Apart known pending keys ↔ ∀ before k after, keys = before ++ k :: after → k ∉ known →
    k ∈ pending ++ before → ∃ early x late, before = early ++ x :: late ∧ k ∈ pending ++ early ++ [x] ∧
      (x ∈ known ∨ x ∈ pending ++ early) := by
  induction keys generalizing known pending with
  | nil => simp [Apart]
  | cons first keys ih =>
    rw [Apart]
    split
    · next known_ =>
      rw [ih]
      clear ih
      constructor
      · intro later before k after split unknown isPending
        cases before with
        | nil => grind
        | cons head before =>
          obtain ⟨rfl, rest⟩ := List.cons.inj split
          by_cases early : k ∈ pending
          · exact ⟨[], first, before, rfl, by simp [early], Or.inl known_⟩
          · obtain ⟨early', x, late, rfl, inside, cause⟩ := later before k after rest (by grind) (by grind)
            exact ⟨first :: early', x, late, rfl, by grind, by grind⟩
      · intro whole before k after split unknown inBefore
        obtain ⟨early, x, late, eq, inside, cause⟩ := whole (first :: before) k after (by rw [split]; rfl) (by grind) (by grind)
        cases early with
        | nil => grind
        | cons head early =>
          obtain ⟨rfl, rfl⟩ := List.cons.inj eq
          exact ⟨early, x, late, rfl, by grind, by grind⟩
    · next unknown =>
      rw [ih]
      clear ih
      constructor
      · rintro ⟨notPending, later⟩ before k after split fresh isPending
        cases before with
        | nil => grind
        | cons head before =>
          obtain ⟨rfl, rest⟩ := List.cons.inj split
          obtain ⟨early, x, late, rfl, inside, cause⟩ := later before k after rest fresh (by grind)
          exact ⟨first :: early, x, late, rfl, by grind, by grind⟩
      · intro whole
        have notPending : first ∉ pending := by
          intro isPending
          obtain ⟨early, x, late, eq, -⟩ := whole [] first keys rfl unknown (by simpa using isPending)
          simp at eq
        refine ⟨notPending, fun before k after split fresh inside => ?_⟩
        obtain ⟨early, x, late, eq, within, cause⟩ := whole (first :: before) k after (by rw [split]; rfl) fresh (by grind)
        cases early with
        | nil => grind
        | cons head early =>
          obtain ⟨rfl, rfl⟩ := List.cons.inj eq
          exact ⟨early, x, late, rfl, by grind, by grind⟩

end Repoint
