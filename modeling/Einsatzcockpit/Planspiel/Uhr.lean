import Einsatzcockpit.Lib.Stopwatch
import Einsatzcockpit.Planspiel.Records

/-! The clock of an exercise over pauses. -/

namespace Einsatzcockpit.Planspiel

open Raising Transition

/-- A run under control, with the time and a stopwatch that is stopped and started
with it. -/
structure Uhr where
  run : PlanspielRun
  jetzt : Zeit
  stoppuhr : Stopwatch Zeit

inductive Uhraktion where
  | warte (dauer : Nat)
  | pausieren
  | fortsetzen
  | beenden

namespace Uhr

def start (run : PlanspielRun) (jetzt : Zeit) : Uhr where
  run := { run with status := .laeuft, gestartetAt := some jetzt, pausiertSeit := none, pausiertSummeS := 0 }
  jetzt
  stoppuhr := { elapsed := 0, since := some jetzt }

def step (w : Uhr) : Uhraktion → Uhr
  | .warte dauer => { w with jetzt := w.jetzt + dauer }
  | .pausieren =>
    match Planspiel.pausieren w.run w.jetzt with
    | .ok werte => { w with run := werte w.run, stoppuhr := w.stoppuhr.stop w.jetzt }
    | .error _ => w
  | .fortsetzen =>
    match Planspiel.fortsetzen w.run w.jetzt with
    | .ok werte => { w with run := werte w.run, stoppuhr := w.stoppuhr.start w.jetzt }
    | .error _ => w
  | .beenden =>
    match steuerbar w.run with
    | .ok _ =>
      { w with
        run := beendet w.run w.jetzt w.run
        stoppuhr := if w.run.pausiertSeit.isSome then w.stoppuhr.start w.jetzt else w.stoppuhr }
    | .error _ => w

def GanzeSekunden (w : Uhr) : Uhraktion → Prop
  | .fortsetzen | .beenden => ∀ seit ∈ w.run.pausiertSeit, (1000000 : Int) ∣ w.jetzt - seit
  | _ => True

instance (w : Uhr) (a : Uhraktion) : Decidable (w.GanzeSekunden a) :=
  match a with
  | .fortsetzen | .beenden => inferInstanceAs (Decidable (∀ seit ∈ w.run.pausiertSeit, (1000000 : Int) ∣ w.jetzt - seit))
  | .warte _ | .pausieren => .isTrue trivial

/-- The exercise time is the tempo times the time that the run was not paused, and
stands still in a pause. -/
structure Genau (w : Uhr) : Prop where
  exakt : ∀ jetzt, w.jetzt ≤ jetzt → simSekunden w.run jetzt = w.run.tempo * ((w.stoppuhr.reading jetzt : ℚ) / 1000000)
  steht : w.run.status = .pausiert → ∀ jetzt jetzt', simSekunden w.run jetzt = simSekunden w.run jetzt'

structure Stimmt (gestartet : Zeit) (w : Uhr) : Prop where
  gestartetAt : w.run.gestartetAt = some gestartet
  tempo : 0 ≤ w.run.tempo
  gezaehlt : ∀ jetzt, w.stoppuhr.reading jetzt = w.run.pausiertSeit.getD jetzt - gestartet - 1000000 * w.run.pausiertSummeS
  pausiert : w.run.status = .pausiert → w.run.pausiertSeit.isSome ∧ w.run.statusVorPause.running
  laeuft : w.run.status ≠ .pausiert → w.run.pausiertSeit = none
  steht : w.run.pausiertSeit.isSome → w.stoppuhr.since = none
  bisher : ∀ seit ∈ w.run.pausiertSeit, seit ≤ w.jetzt
  abgelaufen : 0 ≤ w.stoppuhr.reading w.jetzt

variable {w : Uhr} {gestartet : Zeit}

theorem Stimmt.start (run : PlanspielRun) (tempo : 0 ≤ run.tempo) (jetzt : Zeit) : (start run jetzt).Stimmt jetzt := by
  refine ⟨rfl, tempo, fun later => ?_, nofun, fun _ => rfl, nofun, nofun, ?_⟩
  · show 0 + (later - jetzt) = later - jetzt - 1000000 * 0
    linarith
  · show 0 ≤ 0 + (jetzt - jetzt)
    linarith

theorem Stimmt.genau (stimmt : w.Stimmt gestartet) : w.Genau := by
  have sim : ∀ jetzt, simSekunden w.run jetzt = max 0 (w.run.tempo * ((w.stoppuhr.reading jetzt : ℚ) / 1000000)) := by
    intro jetzt
    rw [simSekunden, stimmt.gestartetAt, stimmt.gezaehlt]
    simp only
    push_cast
    ring_nf
  refine ⟨fun jetzt later => ?_, fun paused jetzt jetzt' => ?_⟩
  · have grown := stimmt.abgelaufen.trans (Stopwatch.reading_mono later)
    have nonneg : (0 : ℚ) ≤ w.stoppuhr.reading jetzt := by exact_mod_cast grown
    rw [sim, max_eq_right (mul_nonneg stimmt.tempo (div_nonneg nonneg (by norm_num)))]
  · have stopped := stimmt.steht (stimmt.pausiert paused).1
    rw [sim, sim, Stopwatch.reading_of_stopped stopped, Stopwatch.reading_of_stopped stopped]

theorem sekunden_of_dvd {dauer : Int} (whole : (1000000 : Int) ∣ dauer) (nonneg : 0 ≤ dauer) :
    1000000 * max 0 (dauer.tdiv 1000000) = dauer := by
  obtain ⟨n, rfl⟩ := whole
  rw [Int.mul_tdiv_cancel_left n (by decide), max_eq_right (by omega)]

section

variable (stimmt : w.Stimmt gestartet)
include stimmt

theorem Stimmt.warte (dauer : Nat) : (w.step (.warte dauer)).Stimmt gestartet := by
  have later : w.jetzt ≤ w.jetzt + (dauer : Int) := by linarith [Int.natCast_nonneg dauer]
  exact ⟨stimmt.gestartetAt, stimmt.tempo, stimmt.gezaehlt, stimmt.pausiert, stimmt.laeuft, stimmt.steht,
    fun seit paused => (stimmt.bisher seit paused).trans later, stimmt.abgelaufen.trans (Stopwatch.reading_mono later)⟩

theorem Stimmt.pausieren : (w.step .pausieren).Stimmt gestartet := by
  simp only [Uhr.step]
  split
  · next werte ok =>
    simp only [Planspiel.pausieren, bind_eq_ok, require_eq_ok, pure_eq_ok] at ok
    obtain ⟨-, running, rfl⟩ := ok
    have open_ : w.run.pausiertSeit = none := stimmt.laeuft fun paused => by rw [paused] at running; cases running
    refine ⟨stimmt.gestartetAt, stimmt.tempo, fun jetzt => ?_, fun _ => ⟨rfl, running⟩, fun other => absurd rfl other,
      fun _ => rfl, fun seit paused => (Option.some.inj paused).ge, stimmt.abgelaufen⟩
    have counted := stimmt.gezaehlt w.jetzt
    rw [open_, Option.getD_none] at counted
    exact counted
  · exact stimmt

theorem Stimmt.weiter {seit : Zeit} (paused : w.run.pausiertSeit = some seit)
    (ganz : (1000000 : Int) ∣ w.jetzt - seit) (jetzt : Zeit) :
    (w.stoppuhr.start w.jetzt).reading jetzt =
      jetzt - gestartet - 1000000 * (w.run.pausiertSummeS + max 0 ((w.jetzt - seit).tdiv 1000000)) := by
  have stopped := stimmt.steht (by rw [paused, Option.isSome_some])
  have counted := stimmt.gezaehlt w.jetzt
  rw [paused, Option.getD_some, Stopwatch.reading_of_stopped stopped] at counted
  have order := stimmt.bisher seit paused
  have seconds := sekunden_of_dvd ganz (sub_nonneg.mpr order)
  rw [Stopwatch.reading_start, counted, mul_add, seconds]
  ring

theorem Stimmt.fortsetzen (ganz : w.GanzeSekunden .fortsetzen) :
    (w.step .fortsetzen).Stimmt gestartet := by
  simp only [Uhr.step]
  split
  · next werte ok =>
    simp only [Planspiel.fortsetzen, bind_eq_ok, require_eq_ok, demand_eq_ok, pure_eq_ok] at ok
    obtain ⟨-, paused, seit, isSeit, rfl⟩ := ok
    have running := (stimmt.pausiert paused).2
    have stopped := stimmt.steht (by rw [isSeit, Option.isSome_some])
    refine ⟨stimmt.gestartetAt, stimmt.tempo, stimmt.weiter isSeit (ganz seit isSeit), fun again => ?_, fun _ => rfl,
      (fun is => by cases is), (fun _ is => by cases is), ?_⟩
    · have again : w.run.statusVorPause = .pausiert := again
      rw [again] at running
      cases running
    · have same := Stopwatch.reading_start_self stopped w.jetzt
      exact stimmt.abgelaufen.trans same.ge
  · exact stimmt

theorem Stimmt.beenden (ganz : w.GanzeSekunden .beenden) :
    (w.step .beenden).Stimmt gestartet := by
  simp only [Uhr.step]
  split
  · cases paused : w.run.pausiertSeit with
    | none =>
      have counted := stimmt.gezaehlt
      rw [paused] at counted
      refine ⟨stimmt.gestartetAt, stimmt.tempo, fun jetzt => ?_, nofun, fun _ => rfl, nofun, nofun, stimmt.abgelaufen⟩
      simp only [beendet, paused]
      exact counted jetzt
    | some seit =>
      have stopped := stimmt.steht (by rw [paused, Option.isSome_some])
      refine ⟨stimmt.gestartetAt, stimmt.tempo, fun jetzt => ?_, nofun, fun _ => rfl, nofun, nofun, ?_⟩
      · simp only [beendet, paused]
        exact stimmt.weiter paused (ganz seit paused) jetzt
      · have same := Stopwatch.reading_start_self stopped w.jetzt
        exact stimmt.abgelaufen.trans same.ge
  · exact stimmt

theorem Stimmt.step (a : Uhraktion) (ganz : w.GanzeSekunden a) : (w.step a).Stimmt gestartet := by
  cases a with
  | warte dauer => exact stimmt.warte dauer
  | pausieren => exact stimmt.pausieren
  | fortsetzen => exact stimmt.fortsetzen ganz
  | beenden => exact stimmt.beenden ganz

theorem Stimmt.stetig {a : Uhraktion} (control : ∀ dauer, a ≠ .warte dauer) :
    (w.step a).jetzt = w.jetzt ∧ (w.step a).run.tempo = w.run.tempo ∧
      (w.step a).stoppuhr.reading w.jetzt = w.stoppuhr.reading w.jetzt := by
  cases a with
  | warte dauer => exact absurd rfl (control dauer)
  | pausieren =>
    simp only [Uhr.step]
    split
    · next werte ok =>
      simp only [Planspiel.pausieren, bind_eq_ok, pure_eq_ok] at ok
      obtain ⟨-, -, rfl⟩ := ok
      exact ⟨rfl, rfl, Stopwatch.reading_stop _ _⟩
    · exact ⟨rfl, rfl, rfl⟩
  | fortsetzen =>
    simp only [Uhr.step]
    split
    · next werte ok =>
      simp only [Planspiel.fortsetzen, bind_eq_ok, require_eq_ok, demand_eq_ok, pure_eq_ok] at ok
      obtain ⟨-, -, seit, isSeit, rfl⟩ := ok
      have stopped := stimmt.steht (by rw [isSeit, Option.isSome_some])
      exact ⟨rfl, rfl, Stopwatch.reading_start_self stopped w.jetzt⟩
    · exact ⟨rfl, rfl, rfl⟩
  | beenden =>
    simp only [Uhr.step]
    split
    · refine ⟨rfl, rfl, ?_⟩
      simp only
      split
      · next paused => exact Stopwatch.reading_start_self (stimmt.steht paused) w.jetzt
      · rfl
    · exact ⟨rfl, rfl, rfl⟩

end

def Vor (w w' : Uhr) : Prop :=
  w'.run.tempo = w.run.tempo ∧ w.stoppuhr.reading w.jetzt ≤ w'.stoppuhr.reading w'.jetzt

section

variable (stimmt : w.Stimmt gestartet)
include stimmt

theorem Stimmt.vor (a : Uhraktion) : w.Vor (w.step a) := by
  by_cases control : ∀ dauer, a ≠ .warte dauer
  · obtain ⟨jetzt, tempo, reading⟩ := stimmt.stetig control
    refine ⟨tempo, ?_⟩
    rw [jetzt, reading]
  · obtain ⟨dauer, rfl⟩ := not_forall_not.mp control
    have later : w.jetzt ≤ w.jetzt + (dauer : Int) := by linarith [Int.natCast_nonneg dauer]
    exact ⟨rfl, Stopwatch.reading_mono later⟩

theorem Stimmt.nachLauf {aktionen : List Uhraktion} (ganz : Meets Uhr.step GanzeSekunden w aktionen) :
    (Transition.run Uhr.step w aktionen).Stimmt gestartet :=
  run_induction (Stimmt gestartet) (fun _ a held whole => held.step a whole) stimmt ganz

theorem Stimmt.vorLauf {aktionen : List Uhraktion} (ganz : Meets Uhr.step GanzeSekunden w aktionen) :
    w.Vor (Transition.run Uhr.step w aktionen) :=
  run_relates (Stimmt gestartet) Vor (fun _ a held whole => held.step a whole) (fun _ => ⟨rfl, le_rfl⟩)
    (fun _ _ _ first second => ⟨second.1.trans first.1, first.2.trans second.2⟩) (fun _ a held _ => held.vor a) stimmt ganz

end

/-- In a run whose pauses take whole seconds, the exercise time is the tempo times the
time without pauses; it never goes back, and no act of the control moves it. -/
theorem uhr_genau (run : PlanspielRun) (tempo : 0 ≤ run.tempo) (gestartet : Zeit) (vorher nachher : List Uhraktion)
    (ganz : Meets Uhr.step GanzeSekunden (start run gestartet) (vorher ++ nachher)) :
    let w := Transition.run Uhr.step (start run gestartet) vorher
    let w' := Transition.run Uhr.step (start run gestartet) (vorher ++ nachher)
    w'.Genau ∧ simSekunden w.run w.jetzt ≤ simSekunden w'.run w'.jetzt ∧
      ∀ a, (∀ dauer, a ≠ .warte dauer) → w'.GanzeSekunden a → simSekunden (w'.step a).run w'.jetzt = simSekunden w'.run w'.jetzt := by
  intro w w'
  obtain ⟨ganzVorher, ganzNachher⟩ := meets_append.mp ganz
  have mitte : w.Stimmt gestartet := (Stimmt.start run tempo gestartet).nachLauf ganzVorher
  have ende : w'.Stimmt gestartet := (Stimmt.start run tempo gestartet).nachLauf ganz
  have split : w' = Transition.run Uhr.step w nachher := run_append _ vorher nachher
  have weiter : w.Vor w' := split ▸ mitte.vorLauf ganzNachher
  refine ⟨ende.genau, ?_, fun a control whole => ?_⟩
  · have grown : (w.stoppuhr.reading w.jetzt : ℚ) ≤ w'.stoppuhr.reading w'.jetzt := Int.cast_le.mpr weiter.2
    rw [mitte.genau.exakt w.jetzt le_rfl, ende.genau.exakt w'.jetzt le_rfl, weiter.1]
    exact mul_le_mul_of_nonneg_left (div_le_div_of_nonneg_right grown (by norm_num)) mitte.tempo
  · obtain ⟨jetzt, same, reading⟩ := ende.stetig control
    have after := (ende.step a whole).genau.exakt w'.jetzt jetzt.le
    rw [after, same, reading, ende.genau.exakt w'.jetzt le_rfl]

theorem uhr_genau_beispiel :
    (Transition.run Uhr.step (start { id := 1, status := .bereit } 0)
      ([.warte 1500000, .pausieren] ++ [.warte 2000000, .fortsetzen, .warte 700000, .beenden])).Genau :=
  (uhr_genau { id := 1, status := .bereit } (by decide +kernel) 0 [.warte 1500000, .pausieren]
    [.warte 2000000, .fortsetzen, .warte 700000, .beenden] (by decide +kernel)).1

/-- A pause of half a second is not counted, and the exercise time jumps over it. -/
theorem uhr_ungenau :
    ¬ (Transition.run Uhr.step (start { id := 1, status := .bereit } 0) [.warte 1000000, .pausieren, .warte 500000, .fortsetzen]).Genau := by
  intro genau
  have exakt := genau.exakt 1500000 (by decide +kernel)
  revert exakt
  decide +kernel

end Uhr

end Einsatzcockpit.Planspiel
