import Mathlib.Data.List.Forall2

namespace Raising

universe u

variable {ε : Type*} {α β : Type u}

/-- Raises unless the condition holds. -/
def require (condition : Prop) [Decidable condition] (error : ε) : Except ε Unit :=
  if condition then .ok () else .error error

@[simp] theorem require_eq_ok {condition : Prop} [Decidable condition] {error : ε} {u : Unit} :
    require condition error = .ok u ↔ condition := by
  unfold require
  split <;> simp [*]

theorem require_bind_eq_error {condition : Prop} [Decidable condition] {error error' : ε}
    {γ : Type} {f : Unit → Except ε γ} :
    (require condition error >>= f) = .error error' ↔ ¬ condition ∧ error = error' ∨ condition ∧ f () = .error error' := by
  unfold require
  split
  · next holds => exact ⟨fun raised => Or.inr ⟨holds, raised⟩, fun either => (either.resolve_left fun fails => fails.1 holds).2⟩
  · next fails =>
    refine ⟨fun raised => Or.inl ⟨fails, Except.error.inj raised⟩, fun either => ?_⟩
    rw [(either.resolve_right fun holds => fails holds.1).2]
    rfl

def demand (value : Option α) (error : ε) : Except ε α :=
  match value with
  | some a => .ok a
  | none => .error error

@[simp] theorem demand_eq_ok {value : Option α} {error : ε} {a : α} :
    demand value error = .ok a ↔ value = some a := by
  cases value <;> simp [demand]

theorem bind_eq_ok {x : Except ε α} {f : α → Except ε β} {b : β} :
    (x >>= f) = .ok b ↔ ∃ a, x = .ok a ∧ f a = .ok b := by
  cases x with
  | error e => simp [bind, Except.bind]
  | ok a => simp [bind, Except.bind]

theorem pure_eq_ok {a b : α} : (pure a : Except ε α) = .ok b ↔ a = b := by
  simp [pure, Except.pure]

theorem map_eq_ok {x : Except ε α} {f : α → β} {b : β} : f <$> x = .ok b ↔ ∃ a, x = .ok a ∧ f a = b := by
  cases x <;> simp [Functor.map, Except.map]

/-- What holds of the value, unless there is an exception. -/
def Yields (x : Except ε α) (p : α → Prop) : Prop := ∀ a, x = .ok a → p a

instance {x : Except ε α} {p : α → Prop} [DecidablePred p] : Decidable (Yields x p) :=
  match x with
  | .error _ => .isTrue fun _ same => by cases same
  | .ok a => decidable_of_iff (p a) ⟨fun held b same => Except.ok.inj same ▸ held, fun held => held a rfl⟩

theorem foldlM_cons_eq_ok {f : β → α → Except ε β} {a : α} {rest : List α} {b b' : β} :
    (a :: rest).foldlM f b = .ok b' ↔ ∃ next, f b a = .ok next ∧ rest.foldlM f next = .ok b' := by
  rw [List.foldlM_cons, bind_eq_ok]

theorem forM_eq_ok {f : α → Except ε PUnit.{u + 1}} {list : List α} (ok : list.forM f = .ok ⟨⟩) {a : α} (member : a ∈ list) :
    f a = .ok ⟨⟩ := by
  induction list with
  | nil => cases member
  | cons head rest ih =>
    rw [List.forM_eq_forM, List.forM_cons, bind_eq_ok] at ok
    obtain ⟨_, first, later⟩ := ok
    rcases List.mem_cons.mp member with rfl | inside
    · exact first
    · exact ih later inside

/-- A list that is mapped without an exception is mapped element by element. -/
theorem forall₂_of_mapM {f : α → Except ε β} {list : List α} {images : List β} (ok : list.mapM f = .ok images) :
    List.Forall₂ (fun a b => f a = .ok b) list images := by
  induction list generalizing images with
  | nil =>
    rw [List.mapM_nil, pure_eq_ok] at ok
    subst ok
    exact .nil
  | cons a rest ih =>
    simp only [List.mapM_cons, bind_eq_ok, pure_eq_ok] at ok
    obtain ⟨b, first, tail, later, rfl⟩ := ok
    exact .cons first (ih later)

theorem exists_of_mem_mapM {f : α → Except ε β} {list : List α} {images : List β} (ok : list.mapM f = .ok images) {b : β}
    (member : b ∈ images) : ∃ a ∈ list, f a = .ok b := by
  have each := forall₂_of_mapM ok
  clear ok
  induction each with
  | nil => cases member
  | cons first _ ih =>
    rcases List.mem_cons.mp member with rfl | later
    · exact ⟨_, List.mem_cons_self .., first⟩
    · obtain ⟨a, isElement, image⟩ := ih later
      exact ⟨a, List.mem_cons_of_mem _ isElement, image⟩

end Raising
