import Mathlib.Data.List.Basic

namespace Transition

variable {σ α : Type*} (step : σ → α → σ)

/-- The state after a finite sequence of actions. -/
def run (s : σ) (actions : List α) : σ :=
  actions.foldl step s

/-- Every action of the sequence meets `ok` in the state it is taken from. -/
def Meets (ok : σ → α → Prop) : σ → List α → Prop
  | _, [] => True
  | s, a :: rest => ok s a ∧ Meets ok (step s a) rest

instance decidableMeets {ok : σ → α → Prop} [∀ s a, Decidable (ok s a)] :
    (s : σ) → (actions : List α) → Decidable (Meets step ok s actions)
  | _, [] => .isTrue trivial
  | s, a :: rest =>
    have : Decidable (Meets step ok (step s a) rest) := decidableMeets (step s a) rest
    inferInstanceAs (Decidable (ok s a ∧ Meets step ok (step s a) rest))

variable {step}

@[simp] theorem run_nil (s : σ) : run step s [] = s := rfl

@[simp] theorem run_cons (s : σ) (a : α) (rest : List α) :
    run step s (a :: rest) = run step (step s a) rest := rfl

theorem run_append (s : σ) (first second : List α) :
    run step s (first ++ second) = run step (run step s first) second :=
  List.foldl_append

theorem meets_append {ok : σ → α → Prop} {s : σ} {first second : List α} :
    Meets step ok s (first ++ second) ↔
      Meets step ok s first ∧ Meets step ok (run step s first) second := by
  induction first generalizing s with
  | nil => simp [Meets]
  | cons a rest ih => simp [Meets, ih, and_assoc]

theorem meets_true (s : σ) (actions : List α) : Meets step (fun _ _ => True) s actions := by
  induction actions generalizing s with
  | nil => trivial
  | cons a rest ih => exact ⟨trivial, ih _⟩

theorem Meets.of_forall {ok : σ → α → Prop} {actions : List α} (all : ∀ a ∈ actions, ∀ s, ok s a) (s : σ) :
    Meets step ok s actions := by
  induction actions generalizing s with
  | nil => trivial
  | cons a rest ih =>
    exact ⟨all a (List.mem_cons_self ..) s, ih (fun b later => all b (List.mem_cons_of_mem _ later)) _⟩

theorem Meets.and {ok also : σ → α → Prop} {s : σ} {actions : List α} (meets : Meets step ok s actions)
    (too : Meets step also s actions) : Meets step (fun s a => ok s a ∧ also s a) s actions := by
  induction actions generalizing s with
  | nil => trivial
  | cons a rest ih => exact ⟨⟨meets.1, too.1⟩, ih meets.2 too.2⟩

/-- A property that every admitted step preserves holds after every
admitted run. -/
theorem run_induction {ok : σ → α → Prop} (P : σ → Prop)
    (preserved : ∀ s a, P s → ok s a → P (step s a))
    {s : σ} {actions : List α} (initial : P s) (meets : Meets step ok s actions) :
    P (run step s actions) := by
  induction actions generalizing s with
  | nil => exact initial
  | cons a rest ih => exact ih (preserved s a initial meets.1) meets.2

theorem run_invariant (P : σ → Prop) (preserved : ∀ s a, P s → P (step s a))
    {s : σ} (initial : P s) (actions : List α) : P (run step s actions) :=
  run_induction P (fun s a held _ => preserved s a held) initial (meets_true s actions)

/-- What holds after a run and not before it was brought about by one of its
steps. -/
theorem exists_becomes (P : σ → Prop) {s : σ} {actions : List α} (before : ¬ P s)
    (after : P (run step s actions)) :
    ∃ first a rest, actions = first ++ a :: rest ∧ ¬ P (run step s first) ∧ P (step (run step s first) a) := by
  induction actions generalizing s with
  | nil => exact absurd after before
  | cons a rest ih =>
    by_cases now : P (step s a)
    · exact ⟨[], a, rest, rfl, before, now⟩
    · obtain ⟨first, b, rest', same, still, becomes⟩ := ih now after
      exact ⟨a :: first, b, rest', congrArg (a :: ·) same, still, becomes⟩

/-- Every action is settled after a run whose steps settle theirs and leave the
settled ones settled. -/
theorem run_settles {Settled : σ → α → Prop} (settles : ∀ s a, Settled (step s a) a)
    (keeps : ∀ s a b, Settled s b → Settled (step s a) b) (s : σ) (actions : List α) :
    ∀ a ∈ actions, Settled (run step s actions) a := by
  induction actions generalizing s with
  | nil => simp
  | cons first rest ih =>
    intro a member
    rcases List.mem_cons.mp member with rfl | later
    · exact run_invariant (Settled · a) (fun s b held => keeps s b a held) (settles s a) rest
    · exact ih (step s first) a later

theorem run_idle {Settled : σ → α → Prop} (idle : ∀ s a, Settled s a → step s a = s) {s : σ} {actions : List α}
    (settled : ∀ a ∈ actions, Settled s a) : run step s actions = s := by
  induction actions with
  | nil => rfl
  | cons first rest ih =>
    rw [run_cons, idle s first (settled first (List.mem_cons_self ..))]
    exact ih fun a member => settled a (List.mem_cons_of_mem _ member)

theorem foldlM_keeps {β ε : Type*} {P : β → Prop} {f : β → α → Except ε β}
    (keeps : ∀ b a b', P b → f b a = .ok b' → P b') {rounds : List α} {b b' : β} (held : P b)
    (ok : rounds.foldlM f b = .ok b') : P b' := by
  induction rounds generalizing b with
  | nil =>
    cases ok
    exact held
  | cons a rest ih =>
    rw [List.foldlM_cons] at ok
    cases first : f b a with
    | error raised =>
      rw [first] at ok
      cases ok
    | ok next =>
      rw [first] at ok
      exact ih (keeps b a next held first) ok

/-- A reflexive and transitive relation that every admitted step of an
invariant's states respects relates the two ends of every admitted run. -/
theorem run_relates {ok : σ → α → Prop} (P : σ → Prop) (R : σ → σ → Prop)
    (preserved : ∀ s a, P s → ok s a → P (step s a))
    (refl : ∀ s, R s s) (trans : ∀ s t u, R s t → R t u → R s u)
    (related : ∀ s a, P s → ok s a → R s (step s a))
    {s : σ} {actions : List α} (initial : P s) (meets : Meets step ok s actions) :
    R s (run step s actions) := by
  induction actions generalizing s with
  | nil => exact refl s
  | cons a rest ih =>
    exact trans _ _ _ (related s a initial meets.1) (ih (preserved s a initial meets.1) meets.2)

end Transition
