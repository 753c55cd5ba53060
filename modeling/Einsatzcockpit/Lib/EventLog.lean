import Mathlib.Data.List.Chain

variable {α : Type*}

/-- A sequence of holders: how one follows another, how the first starts, and
what may be last. -/
structure Succession (next : α → α → Prop) (first last : α → Prop) (rows : List α) : Prop where
  links : rows.IsChain next
  start : ∀ a ∈ rows.head?, first a
  latest : ∀ a ∈ rows.getLast?, last a

namespace Succession

variable {next : α → α → Prop} {first last : α → Prop} {rows front : List α} {a a' b : α}

theorem nil : Succession next first last [] := ⟨.nil, fun _ none => by simp at none, fun _ none => by simp at none⟩

theorem eq_append (succession : Succession next first last rows) (member : a ∈ rows) (current : ∀ b, ¬ next a b) :
    ∃ front, rows = front ++ [a] := by
  obtain ⟨front, rest, rfl⟩ := List.append_of_mem member
  cases rest with
  | nil => exact ⟨front, rfl⟩
  | cons b rest =>
    have links := (List.isChain_append.mp succession.links).2.1
    exact absurd (List.isChain_cons_cons.mp links).1 (current b)

theorem replace (succession : Succession next first last (front ++ [a])) (keeps : ∀ x, next x a → next x a')
    (starts : first a → first a') (may : last a') : Succession next first last (front ++ [a']) := by
  obtain ⟨before, -, joined⟩ := List.isChain_append.mp succession.links
  refine ⟨List.isChain_append.mpr ⟨before, List.isChain_singleton a', fun x isLast y isHead => ?_⟩, fun x isHead => ?_,
    fun x isLast => ?_⟩
  · cases isHead
    exact keeps x (joined x isLast a rfl)
  · cases front with
    | nil =>
      cases isHead
      exact starts (succession.start a rfl)
    | cons y rest => exact succession.start x isHead
  · rw [List.getLast?_concat] at isLast
    cases isLast
    exact may

theorem followed (succession : Succession next first last (front ++ [a])) {x : α} (member : x ∈ front) : ∃ y, next x y := by
  obtain ⟨before, after, rfl⟩ := List.append_of_mem member
  have links := succession.links
  rw [List.append_assoc, List.cons_append] at links
  cases after with
  | nil => exact ⟨a, (List.isChain_cons_cons.mp (List.isChain_append.mp links).2.1).1⟩
  | cons y rest => exact ⟨y, (List.isChain_cons_cons.mp (List.isChain_append.mp links).2.1).1⟩

theorem any (succession : Succession next first last rows) : Succession next first (fun _ => True) rows :=
  ⟨succession.links, succession.start, fun _ _ => trivial⟩

/-- A new holder; the one before may be in any state that lets him follow. -/
theorem append {last' : α → Prop} (succession : Succession next first last' rows) (follows : ∀ x ∈ rows.getLast?, next x b)
    (starts : rows = [] → first b) (may : last b) : Succession next first last (rows ++ [b]) := by
  refine ⟨List.isChain_append.mpr ⟨succession.links, List.isChain_singleton b, fun x isLast y isHead => ?_⟩,
    fun x isHead => ?_, fun x isLast => ?_⟩
  · cases isHead
    exact follows x isLast
  · cases rows with
    | nil =>
      cases isHead
      exact starts rfl
    | cons y rest => exact succession.start x isHead
  · rw [List.getLast?_concat] at isLast
    cases isLast
    exact may

end Succession

namespace EventLog

variable {ε : Type*}

/-- `R` holds between every two entries of a log, oldest first, and the part
of the log that precedes the later one. -/
def Pairs (R : ε → ε → List ε → Prop) (log : List ε) : Prop :=
  ∀ before earlier between later after,
    log = before ++ earlier :: (between ++ later :: after) →
      R earlier later (before ++ earlier :: between)

theorem pairs_nil (R : ε → ε → List ε → Prop) : Pairs R [] := by
  intro before earlier between later after shape
  simp at shape

theorem Pairs.append_one {R : ε → ε → List ε → Prop} {log : List ε} {entry : ε}
    (held : Pairs R log) (new : ∀ earlier ∈ log, R earlier entry log) :
    Pairs R (log ++ [entry]) := by
  intro before earlier between later after shape
  rcases List.eq_nil_or_concat after with rfl | ⟨init, last, rfl⟩
  · have split : log ++ [entry] = (before ++ earlier :: between) ++ [later] := by
      simpa using shape
    obtain ⟨rfl, same⟩ := List.append_inj' split rfl
    obtain rfl : entry = later := by simpa using same
    exact new earlier (by simp)
  · have split : log ++ [entry] = (before ++ earlier :: (between ++ later :: init)) ++ [last] := by
      simpa using shape
    obtain ⟨rfl, -⟩ := List.append_inj' split rfl
    exact held before earlier between later init rfl

end EventLog

namespace Archive

variable {α κ : Type*} [DecidableEq κ]

/-- The records of one cycle; those of the open cycle bear no key. -/
def cycle (key : α → Option κ) (z : Option κ) (records : List α) : List α :=
  records.filter fun record => key record = z

variable {key key' : α → Option κ} {z : Option κ} {records new : List α}

theorem mem_cycle {record : α} : record ∈ cycle key z records ↔ record ∈ records ∧ key record = z := by
  simp [cycle]

/-- Changes that leave the records of a cycle alone and move none into it. -/
theorem cycle_map {change : α → α} (kept : ∀ record ∈ records, key' (change record) = z ↔ key record = z)
    (fixed : ∀ record ∈ records, key record = z → change record = record) :
    cycle key' z (records.map change) = cycle key z records := by
  induction records with
  | nil => rfl
  | cons record rest ih =>
    have tail := ih (fun other member => kept other (List.mem_cons_of_mem _ member))
      fun other member => fixed other (List.mem_cons_of_mem _ member)
    have head := kept record (List.mem_cons_self ..)
    unfold cycle at tail ⊢
    by_cases inside : key record = z
    · have same := fixed record (List.mem_cons_self ..) inside
      rw [List.map_cons, List.filter_cons_of_pos (by simpa using head.mpr inside),
        List.filter_cons_of_pos (by simpa using inside), tail, same]
    · have outside : ¬ key' (change record) = z := fun moved => inside (head.mp moved)
      rw [List.map_cons, List.filter_cons_of_neg (by simpa using outside),
        List.filter_cons_of_neg (by simpa using inside), tail]

theorem cycle_congr (kept : ∀ record ∈ records, key' record = z ↔ key record = z) :
    cycle key' z records = cycle key z records := by
  have mapped := @cycle_map α κ _ key key' z records id kept fun _ _ _ => rfl
  rwa [List.map_id] at mapped

theorem cycle_map_kept {change : α → α} (kept : ∀ record ∈ records, key' (change record) = key record) :
    cycle key' z (records.map change) = (cycle key z records).map change := by
  unfold cycle
  rw [List.filter_map]
  refine congrArg _ (List.filter_congr fun record member => ?_)
  simp only [Function.comp_apply, kept record member]

theorem cycle_append_of_ne (other : ∀ record ∈ new, key record ≠ z) :
    cycle key z (records ++ new) = cycle key z records := by
  have none : new.filter (fun record => decide (key record = z)) = [] :=
    List.filter_eq_nil_iff.mpr fun record member => by simpa using other record member
  unfold cycle
  rw [List.filter_append, none, List.append_nil]

theorem existsUnique_cycle {cycles : List (Option κ)} {record : α} (member : record ∈ records)
    (known : key record ∈ cycles) : ∃! z, z ∈ cycles ∧ record ∈ cycle key z records :=
  ⟨key record, ⟨known, mem_cycle.mpr ⟨member, rfl⟩⟩, fun _ inside => ((mem_cycle.mp inside.2).2).symm⟩

end Archive
