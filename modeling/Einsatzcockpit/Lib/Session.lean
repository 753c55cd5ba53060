import Einsatzcockpit.Lib.Raise

universe u

variable {ε σ α β : Type u}

/-- A call in a session: what it has written stays written when it raises. -/
abbrev Session (ε σ α : Type u) := ExceptT ε (StateM σ) α

namespace Session

/-- What the call answers, and the session it leaves. -/
def exec (call : Session ε σ α) (session : σ) : Except ε α × σ := call.run.run session

/-- A check that reads the session only. -/
def check (test : σ → Except ε α) : Session ε σ α := fun session => (test session, session)

def write (change : σ → σ) : Session ε σ PUnit := modify change

variable {call : Session ε σ α} {next : α → Session ε σ β} {session : σ}

theorem exec_bind (call : Session ε σ α) (next : α → Session ε σ β) (session : σ) : (call >>= next).exec session =
    match call.exec session with
    | (.ok a, later) => (next a).exec later
    | (.error e, later) => (.error e, later) := by
  show ((call >>= next).run.run session : Except ε β × σ) = _
  rw [ExceptT.run_bind, StateT.run_bind]
  unfold exec
  rcases call.run.run session with ⟨answer, later⟩
  cases answer <;> rfl

@[simp] theorem exec_pure (a : α) : (pure a : Session ε σ α).exec session = (.ok a, session) := rfl

@[simp] theorem exec_check (test : σ → Except ε α) : (check test).exec session = (test session, session) := rfl

@[simp] theorem exec_write (change : σ → σ) :
    (write change : Session ε σ PUnit).exec session = (.ok ⟨⟩, change session) := rfl

theorem exec_check_bind (test : σ → Except ε α) (next : α → Session ε σ β) (session : σ) :
    (check test >>= next).exec session =
      match test session with
      | .ok a => (next a).exec session
      | .error e => (.error e, session) := by
  rw [exec_bind, exec_check]
  cases test session <;> rfl

@[simp] theorem exec_write_bind (change : σ → σ) (next : PUnit → Session ε σ β) (session : σ) :
    (write change >>= next).exec session = (next ⟨⟩).exec (change session) := by
  rw [exec_bind, exec_write]

/-- The call comes through from this session. -/
def Completes (call : Session ε σ α) (session : σ) : Prop := ∃ a later, call.exec session = (.ok a, later)

/-- Where the call raises from this session, it has written nothing. -/
def Clean (call : Session ε σ α) (session : σ) : Prop := ∀ e later, call.exec session = (.error e, later) → later = session

theorem completes_pure (a : α) : (pure a : Session ε σ α).Completes session := ⟨a, session, rfl⟩

theorem Completes.check_bind {test : σ → Except ε α} {a : α} (passes : test session = .ok a)
    (rest : (next a).Completes session) : (check test >>= next).Completes session := by
  obtain ⟨b, last, done⟩ := rest
  refine ⟨b, last, ?_⟩
  rw [exec_check_bind, passes]
  exact done

theorem Completes.bind (first : call.Completes session)
    (rest : ∀ a later, call.exec session = (.ok a, later) → (next a).Completes later) :
    (call >>= next).Completes session := by
  obtain ⟨a, later, ran⟩ := first
  obtain ⟨b, last, done⟩ := rest a later ran
  refine ⟨b, last, ?_⟩
  rw [exec_bind, ran]
  exact done

theorem Completes.clean (completes : call.Completes session) : call.Clean session := by
  intro e later raised
  obtain ⟨a, last, done⟩ := completes
  rw [done] at raised
  cases raised

theorem Clean.check_bind {test : σ → Except ε α} (rest : ∀ a, test session = .ok a → (next a).Clean session) :
    (check test >>= next).Clean session := by
  intro e later raised
  rw [exec_check_bind] at raised
  cases result : test session with
  | error failure =>
    rw [result] at raised
    exact (congrArg Prod.snd raised).symm
  | ok a =>
    rw [result] at raised
    exact rest a result e later raised

/-- A call that raises only before it writes, followed by one that comes through. -/
theorem Clean.bind (first : call.Clean session)
    (rest : ∀ a later, call.exec session = (.ok a, later) → (next a).Completes later) :
    (call >>= next).Clean session := by
  intro e later raised
  rw [exec_bind] at raised
  cases ran : call.exec session with
  | mk answer last =>
    rw [ran] at raised
    cases answer with
    | error failure =>
      cases raised
      exact first _ _ ran
    | ok a =>
      obtain ⟨b, final, done⟩ := rest a last ran
      dsimp only at raised
      rw [done] at raised
      cases raised

section Require

variable {ε σ β : Type} {session : σ} {condition : σ → Prop} [DecidablePred condition] {error : σ → ε}
  {next : Unit → Session ε σ β}

theorem exec_require_bind : (check (fun s => Raising.require (condition s) (error s)) >>= next).exec session =
    if condition session then (next ()).exec session else (.error (error session), session) := by
  rw [exec_check_bind]
  by_cases holds : condition session
  · rw [Raising.require, if_pos holds, if_pos holds]
  · rw [Raising.require, if_neg holds, if_neg holds]

end Require

end Session
