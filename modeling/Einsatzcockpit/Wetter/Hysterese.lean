import Mathlib.Data.List.Induction
import Einsatzcockpit.Lib.Run
import Einsatzcockpit.Basis
import Mathlib.Data.Rat.Defs

/-! The state machine of the weather alerts, `weather_alert_service.py` and
`weather_alert_loop.py`. -/

namespace Einsatzcockpit.Wetter

inductive Zustand where
  | none | vorwarnung | akut | unavailable
  deriving DecidableEq

inductive Wert where
  | zahl (n : ℚ)
  | wahr (b : Bool)
  | text (s : String)
  | fehlt

/-- `float(v)` of an `int`, `float` or `bool`. -/
def Wert.float? : Wert → Option ℚ
  | zahl n => some n
  | wahr b => some (if b then 1 else 0)
  | text _ | fehlt => Option.none

abbrev Werte := List (String × Wert)

structure RuleResult where
  state : Zustand
  detailDe : String := ""
  values : Werte := []
  payloadHash : Option String := Option.none
  evidence : List Werte := []

structure Decision where
  notify : Bool
  newState : Zustand
  detailDe : String
  values : Werte
  payloadHash : Option String
  evidence : List Werte

/-- A row of `weather_alert_rule`. -/
structure Rule where
  key : String
  eskalation : Bool := true
  vorwarnung : Bool := true
  cooldownMin : Option Int := some 60

/-- A row of `weather_alert_state`. -/
structure AlertState where
  state : Zustand := .none
  since : Option Zeit := Option.none
  lastValue : Option ℚ := Option.none
  lastNotifiedAt : Option Zeit := Option.none
  lastPayloadHash : Option String := Option.none
  belowThresholdCycles : Nat := 0
  aboveThresholdCycles : Nat := 0

/-- `_HYSTERESE_CYCLES` -/
def hystereseCycles : Nat := 2

/-- `_STATION_CONFIRMATION_RULES` -/
def stationConfirmationRules : List String := ["starkregen", "schneefall", "glatteis", "lake_effekt"]

def RuleResult.decision (result : RuleResult) (notify : Bool) (newState : Zustand) : Decision where
  notify
  newState
  detailDe := result.detailDe
  values := result.values
  payloadHash := result.payloadHash
  evidence := result.evidence

/-- `(rule.cooldown_min or 60) * 60` seconds. -/
def Rule.cooldown (rule : Rule) : Zeit := minuten ((rule.cooldownMin.filter (· ≠ 0)).getD 60)

/-- `station_entry` -/
def stationEntry (rule : Rule) (old new : Zustand) : Bool :=
  stationConfirmationRules.contains rule.key && new == .akut && old != .akut && old != .vorwarnung

/-- The part of `apply_state_machine` after the counters. -/
def benachrichtigen (rule : Rule) (result : RuleResult) (row : AlertState) (now : Zeit) : Bool :=
  let old := row.state
  let new := result.state
  let eskalation := old == .vorwarnung && new == .akut && rule.eskalation
  if (orNone result.payloadHash).isSome && row.lastPayloadHash == result.payloadHash then false
  else if !eskalation && old == new && new != .none &&
      row.lastNotifiedAt.any (fun last => decide (now - last < rule.cooldown)) then false
  else
    (new != .none && (new != old || eskalation)) || (new == .vorwarnung && old == .none && rule.vorwarnung)

/-- `apply_state_machine`; the loop always passes a row. -/
def applyStateMachine (rule : Rule) (result : RuleResult) (row : AlertState) (now : Zeit) : Decision × AlertState :=
  let old := row.state
  let new := result.state
  if new = .unavailable then (result.decision false old, row)
  else
    let cycles := row.aboveThresholdCycles + 1
    let entry := stationEntry rule old new
    let row := { row with aboveThresholdCycles := if entry then cycles else 0 }
    if entry ∧ cycles < hystereseCycles then (result.decision false old, row)
    else if old = .akut ∧ new ≠ .akut ∧ row.belowThresholdCycles + 1 < hystereseCycles then
      (result.decision false .akut, { row with belowThresholdCycles := row.belowThresholdCycles + 1 })
    else
      let row := if new = .akut then { row with belowThresholdCycles := 0 } else row
      (result.decision (benachrichtigen rule result row now) new, row)

/-- What one round of the loop sees of a rule: its settings, the result of its
evaluation and the clock at the decision, at the change of state and at the
notification. -/
structure Runde where
  eskalation : Bool := true
  vorwarnung : Bool := true
  cooldownMin : Option Int := some 60
  result : RuleResult
  now : Zeit
  since : Zeit := now
  notifiedAt : Zeit := now

def Runde.rule (key : String) (runde : Runde) : Rule :=
  { key, eskalation := runde.eskalation, vorwarnung := runde.vorwarnung, cooldownMin := runde.cooldownMin }

structure Lauf where
  row : AlertState := {}
  meldungen : List Decision := []

def entscheidung (key : String) (row : AlertState) (runde : Runde) : Decision × AlertState :=
  applyStateMachine (runde.rule key) runde.result row runde.now

/-- A round of `_process_org_ablauf` for one rule. -/
def step (key : String) (lauf : Lauf) (runde : Runde) : Lauf :=
  let (decision, row) := entscheidung key lauf.row runde
  let result := runde.result
  let row := { row with
    since := if row.state ≠ decision.newState then some runde.since else row.since
    state := decision.newState
    lastPayloadHash := if (orNone result.payloadHash).isSome then result.payloadHash else row.lastPayloadHash
    lastValue := (result.values.findSome? (·.2.float?)).or row.lastValue }
  if decision.notify then
    { row := { row with lastNotifiedAt := some runde.notifiedAt, lastPayloadHash := decision.payloadHash }
      meldungen := lauf.meldungen ++ [decision] }
  else { lauf with row }

open Transition

def bewertet (runden : List Runde) : List RuleResult :=
  (runden.map (·.result)).filter (·.state ≠ .unavailable)

theorem bewertet_next (runden : List Runde) (runde : Runde) :
    bewertet (runden ++ [runde]) =
      bewertet runden ++ if runde.result.state = .unavailable then [] else [runde.result] := by
  rw [bewertet, List.map_append, List.filter_append, List.map_singleton, List.filter_singleton]
  split
  · next missing => simp [missing, bewertet]
  · next there => simp [there, bewertet]

def Zuletzt (runden : List Runde) (p : RuleResult → Prop) : Prop := ∃ last ∈ (bewertet runden).getLast?, p last

theorem zuletzt_next {runden : List Runde} {runde : Runde} {p : RuleResult → Prop}
    (there : runde.result.state ≠ .unavailable) (holds : p runde.result) : Zuletzt (runden ++ [runde]) p := by
  refine ⟨runde.result, ?_, holds⟩
  rw [bewertet_next, if_neg there, List.getLast?_concat]
  rfl

theorem zuletzt_unavailable {runden : List Runde} {runde : Runde} {p : RuleResult → Prop}
    (missing : runde.result.state = .unavailable) (before : Zuletzt runden p) : Zuletzt (runden ++ [runde]) p := by
  unfold Zuletzt
  rw [bewertet_next, if_pos missing, List.append_nil]
  exact before

/-- What one decision does: nothing when the result is unavailable; the first
acute result of a station is only counted; the first result below the
threshold is only counted; otherwise the state of the result is taken over. -/
inductive Wirkung (rule : Rule) (result : RuleResult) (row : AlertState) (now : Zeit) : Decision × AlertState → Prop
  | unavailable (missing : result.state = .unavailable) :
      Wirkung rule result row now (result.decision false row.state, row)
  | gezaehlt (entry : stationEntry rule row.state result.state = true) (first : row.aboveThresholdCycles = 0) :
      Wirkung rule result row now (result.decision false row.state, { row with aboveThresholdCycles := 1 })
  | gehalten (akut : row.state = .akut) (there : result.state ≠ .unavailable) (below : result.state ≠ .akut)
      (first : row.belowThresholdCycles = 0) :
      Wirkung rule result row now
        (result.decision false .akut, { row with aboveThresholdCycles := 0, belowThresholdCycles := 1 })
  | uebernommen (above : Nat) (row' : AlertState) (there : result.state ≠ .unavailable)
      (entry : stationEntry rule row.state result.state = true → 0 < row.aboveThresholdCycles)
      (counted : 0 < above → result.state = .akut)
      (left : row.state = .akut → result.state ≠ .akut → 0 < row.belowThresholdCycles)
      (same : row' = { row with
        aboveThresholdCycles := above
        belowThresholdCycles := if result.state = .akut then 0 else row.belowThresholdCycles }) :
      Wirkung rule result row now (result.decision (benachrichtigen rule result row' now) result.state, row')

theorem applyStateMachine_wirkung (rule : Rule) (result : RuleResult) (row : AlertState) (now : Zeit) :
    Wirkung rule result row now (applyStateMachine rule result row now) := by
  unfold applyStateMachine
  dsimp only
  split
  · next missing => exact .unavailable missing
  · next there =>
    split
    · next first =>
      obtain ⟨entry, few⟩ := first
      have none : row.aboveThresholdCycles = 0 := by
        unfold hystereseCycles at few
        omega
      rw [if_pos entry, none]
      exact .gezaehlt entry none
    · next confirmed =>
      split
      · next held =>
        obtain ⟨akut, below, few⟩ := held
        have none : row.belowThresholdCycles = 0 := by
          unfold hystereseCycles at few
          omega
        have noEntry : stationEntry rule row.state result.state = false := by
          simp [stationEntry, below]
        rw [noEntry, none]
        exact .gehalten akut there below none
      · next leaves =>
        refine .uebernommen (if stationEntry rule row.state result.state then row.aboveThresholdCycles + 1 else 0) _ there
          (fun entry => ?_) (fun counted => ?_) (fun akut below => ?_) ?_
        · unfold hystereseCycles at confirmed
          by_contra none
          exact confirmed ⟨entry, by omega⟩
        · split at counted
          · next entry =>
            simp only [stationEntry, Bool.and_eq_true, beq_iff_eq] at entry
            exact entry.1.1.2
          · exact absurd counted (lt_irrefl 0)
        · unfold hystereseCycles at leaves
          by_contra none
          exact leaves ⟨akut, below, by omega⟩
        · split <;> rfl

theorem benachrichtigen_eintritt {rule : Rule} {result : RuleResult} {row : AlertState} {now : Zeit}
    (sent : benachrichtigen rule result row now = true) : result.state ≠ row.state ∧ result.state ≠ .none := by
  unfold benachrichtigen at sent
  dsimp only at sent
  split at sent
  · cases sent
  · split at sent
    · cases sent
    · simp only [Bool.or_eq_true, Bool.and_eq_true, bne_iff_ne, ne_eq, beq_iff_eq] at sent
      rcases sent with ⟨present, changed | escalated⟩ | fresh
      · exact ⟨changed, present⟩
      · rw [escalated.1.1, escalated.1.2]
        decide
      · rw [fresh.1.1, fresh.1.2]
        decide

section Step

variable (key : String) (lauf : Lauf) (runde : Runde)

theorem step_state : (step key lauf runde).row.state = (entscheidung key lauf.row runde).1.newState := by
  unfold step
  dsimp only
  split <;> rfl

theorem step_above :
    (step key lauf runde).row.aboveThresholdCycles = (entscheidung key lauf.row runde).2.aboveThresholdCycles := by
  unfold step
  dsimp only
  split <;> rfl

theorem step_below :
    (step key lauf runde).row.belowThresholdCycles = (entscheidung key lauf.row runde).2.belowThresholdCycles := by
  unfold step
  dsimp only
  split <;> rfl

end Step

/-- What the counters of a row say about the results of the rule. -/
structure Zaehler (runden : List Runde) (row : AlertState) : Prop where
  above : 0 < row.aboveThresholdCycles → Zuletzt runden (·.state = .akut)
  below : row.state = .akut → 0 < row.belowThresholdCycles → Zuletzt runden (·.state ≠ .akut)

theorem Zaehler.step {key : String} {runden : List Runde} {lauf : Lauf} (zaehler : Zaehler runden lauf.row)
    (runde : Runde) : Zaehler (runden ++ [runde]) (step key lauf runde).row := by
  have wirkung := applyStateMachine_wirkung (runde.rule key) runde.result lauf.row runde.now
  have state := step_state key lauf runde
  have above := step_above key lauf runde
  have below := step_below key lauf runde
  unfold entscheidung at state above below
  generalize applyStateMachine (runde.rule key) runde.result lauf.row runde.now = ergebnis at wirkung state above below
  cases wirkung with
  | unavailable missing =>
    refine ⟨fun counted => ?_, fun akut counted => ?_⟩
    · exact zuletzt_unavailable missing (zaehler.above (above ▸ counted))
    · exact zuletzt_unavailable missing (zaehler.below (state.symm.trans akut) (below ▸ counted))
  | gezaehlt entry _ =>
    simp only [stationEntry, Bool.and_eq_true, beq_iff_eq, bne_iff_ne, ne_eq] at entry
    refine ⟨fun _ => ?_, fun akut _ => absurd (state.symm.trans akut) entry.1.2⟩
    exact zuletzt_next (by rw [entry.1.1.2]; decide) entry.1.1.2
  | gehalten _ there notAkut _ =>
    refine ⟨fun counted => ?_, fun _ _ => zuletzt_next there notAkut⟩
    rw [above] at counted
    exact absurd counted (lt_irrefl 0)
  | uebernommen n row' there _ counted _ same =>
    subst same
    refine ⟨fun more => ?_, fun akut more => ?_⟩
    · rw [above] at more
      exact zuletzt_next there (counted more)
    · have isAkut : runde.result.state = .akut := state.symm.trans akut
      rw [below] at more
      dsimp only at more
      rw [if_pos isAkut] at more
      exact absurd more (lt_irrefl 0)

def stand (key : String) (runden : List Runde) : Lauf := run (step key) {} runden

theorem stand_zaehler (key : String) (runden : List Runde) : Zaehler runden (stand key runden).row := by
  induction runden using List.reverseRecOn with
  | nil => exact ⟨fun counted => absurd counted (lt_irrefl 0), fun _ counted => absurd counted (lt_irrefl 0)⟩
  | append_singleton runden runde ih =>
    rw [stand, run_append]
    exact ih.step runde

def meldung (key : String) (vorher : List Runde) (runde : Runde) : Decision :=
  (entscheidung key (stand key vorher).row runde).1

def gemeldeterHash (key : String) (vorher : List Runde) : Option String :=
  (stand key vorher).meldungen.getLast?.bind (·.payloadHash)

structure NeueWarnung (key : String) (vorher : List Runde) (runde : Runde) : Prop where
  akut : (stand key vorher).row.state = .akut
  bleibt : runde.result.state = .akut
  hash : (orNone runde.result.payloadHash).isSome = true
  neu : runde.result.payloadHash ≠ gemeldeterHash key vorher
  cooldown : ∀ last ∈ (stand key vorher).row.lastNotifiedAt, (runde.rule key).cooldown ≤ runde.now - last

structure Gesetz (key : String) (runden : List Runde) : Prop where
  verlassen : ∀ vorher runde rest, runden = vorher ++ runde :: rest → (stand key vorher).row.state = .akut →
    (stand key (vorher ++ [runde])).row.state ≠ .akut →
      runde.result.state ≠ .unavailable ∧ runde.result.state ≠ .akut ∧ Zuletzt vorher (·.state ≠ .akut)
  bestaetigt : ∀ vorher runde rest, runden = vorher ++ runde :: rest → key ∈ stationConfirmationRules →
    (stand key vorher).row.state = .none → (stand key (vorher ++ [runde])).row.state = .akut →
      runde.result.state = .akut ∧ Zuletzt vorher (·.state = .akut)
  gemeldet : ∀ vorher runde rest, runden = vorher ++ runde :: rest → (meldung key vorher runde).notify = true →
    (meldung key vorher runde).newState ≠ .none ∧ (meldung key vorher runde).newState ≠ (stand key vorher).row.state ∨
      NeueWarnung key vorher runde
  neueWarnung : ∀ vorher runde rest, runden = vorher ++ runde :: rest → NeueWarnung key vorher runde →
    (meldung key vorher runde).notify = true

section Runde

variable {key : String} {vorher : List Runde} {runde : Runde}

theorem stand_next_state :
    (stand key (vorher ++ [runde])).row.state = (meldung key vorher runde).newState := by
  rw [stand, run_append]
  exact step_state key _ runde

theorem meldung_wirkung : Wirkung (runde.rule key) runde.result (stand key vorher).row runde.now
    (entscheidung key (stand key vorher).row runde) :=
  applyStateMachine_wirkung ..

theorem akut_verlassen (akut : (stand key vorher).row.state = .akut)
    (left : (stand key (vorher ++ [runde])).row.state ≠ .akut) :
    runde.result.state ≠ .unavailable ∧ runde.result.state ≠ .akut ∧ Zuletzt vorher (·.state ≠ .akut) := by
  have wirkung := @meldung_wirkung key vorher runde
  rw [stand_next_state, meldung] at left
  generalize entscheidung key (stand key vorher).row runde = ergebnis at wirkung left
  cases wirkung with
  | unavailable | gezaehlt => exact absurd akut left
  | gehalten => exact absurd rfl left
  | uebernommen _ _ there _ _ counted _ =>
    exact ⟨there, left, (stand_zaehler key vorher).below akut (counted akut left)⟩

theorem akut_bestaetigt (station : key ∈ stationConfirmationRules) (none : (stand key vorher).row.state = .none)
    (entered : (stand key (vorher ++ [runde])).row.state = .akut) :
    runde.result.state = .akut ∧ Zuletzt vorher (·.state = .akut) := by
  have wirkung := @meldung_wirkung key vorher runde
  rw [stand_next_state, meldung] at entered
  generalize entscheidung key (stand key vorher).row runde = ergebnis at wirkung entered
  cases wirkung with
  | unavailable | gezaehlt => cases none.symm.trans entered
  | gehalten akut => cases none.symm.trans akut
  | uebernommen _ _ _ entry =>
    have isAkut : runde.result.state = .akut := entered
    have isEntry : stationEntry (runde.rule key) (stand key vorher).row.state runde.result.state = true := by
      rw [stationEntry, none, isAkut, Runde.rule, List.contains_iff_mem.mpr station]
      rfl
    exact ⟨isAkut, (stand_zaehler key vorher).above (entry isEntry)⟩

theorem meldung_eintritt (sent : (meldung key vorher runde).notify = true) :
    (meldung key vorher runde).newState ≠ .none ∧
      (meldung key vorher runde).newState ≠ (stand key vorher).row.state := by
  have wirkung := @meldung_wirkung key vorher runde
  unfold meldung at sent ⊢
  generalize entscheidung key (stand key vorher).row runde = ergebnis at wirkung sent ⊢
  cases wirkung with
  | unavailable | gezaehlt | gehalten => cases sent
  | uebernommen _ _ _ _ _ _ same =>
    subst same
    obtain ⟨changed, present⟩ := benachrichtigen_eintritt sent
    exact ⟨present, changed⟩

theorem neueWarnung_stumm (neu : NeueWarnung key vorher runde) : (meldung key vorher runde).notify = false := by
  by_contra sent
  have entered := (meldung_eintritt (Bool.not_eq_false _ ▸ sent)).2
  have wirkung := @meldung_wirkung key vorher runde
  unfold meldung at entered
  generalize entscheidung key (stand key vorher).row runde = ergebnis at wirkung entered
  cases wirkung with
  | unavailable | gezaehlt => exact entered rfl
  | gehalten akut => exact entered akut.symm
  | uebernommen => exact entered (neu.bleibt.trans neu.akut.symm)

end Runde

/-- The law holds of exactly the histories in which no new official warning is
due for a notification while the state is already acute. -/
theorem wetter_hysterese (key : String) (runden : List Runde) :
    Gesetz key runden ↔ ∀ vorher runde rest, runden = vorher ++ runde :: rest → ¬ NeueWarnung key vorher runde := by
  constructor
  · intro gesetz vorher runde rest split_ neu
    have sent := gesetz.neueWarnung vorher runde rest split_ neu
    rw [neueWarnung_stumm neu] at sent
    cases sent
  · intro keine
    exact {
      verlassen := fun _ _ _ _ akut left => akut_verlassen akut left
      bestaetigt := fun _ _ _ _ station none entered => akut_bestaetigt station none entered
      gemeldet := fun _ _ _ _ sent => Or.inl (meldung_eintritt sent)
      neueWarnung := fun vorher runde rest split_ neu => absurd neu (keine vorher runde rest split_) }

/-- A storm warning of another level, three hours after the first. -/
theorem wetter_hysterese_verfehlt :
    let erste : Runde := { result := { state := .akut, payloadHash := some "a" }, now := 0 }
    let zweite : Runde := { result := { state := .akut, payloadHash := some "b" }, now := stunden 3 }
    (stand "amtlich" [erste, zweite]).meldungen.map (·.payloadHash) = [some "a"] ∧
      ¬ Gesetz "amtlich" [erste, zweite] := by
  intro erste zweite
  refine ⟨by decide +kernel, fun gesetz => ?_⟩
  have neu : NeueWarnung "amtlich" [erste] zweite := by
    refine ⟨by decide +kernel, by decide +kernel, by decide +kernel, by decide +kernel, fun last at_ => ?_⟩
    have first : (stand "amtlich" [erste]).row.lastNotifiedAt = some 0 := by decide +kernel
    rw [first] at at_
    cases at_
    decide +kernel
  have sent := gesetz.neueWarnung [erste] zweite [] rfl neu
  have silent : (meldung "amtlich" [erste] zweite).notify = false := by decide +kernel
  rw [silent] at sent
  cases sent

end Einsatzcockpit.Wetter
