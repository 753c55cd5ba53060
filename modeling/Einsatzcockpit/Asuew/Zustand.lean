import Einsatzcockpit.Asuew.Logik
import Einsatzcockpit.Breathing.Validation

namespace Einsatzcockpit.Asuew

open Breathing

def warnungText : Warnung → String
  | .withdraw => "withdraw"
  | .maxExceeded => "max_exceeded"
  | .oneThirdDue => "one_third_due"
  | .twoThirdDue => "two_third_due"
  | .funkVerloren => "funk_verloren"
  | .notfall => "notfall"

def stufeText : Stufe → String
  | .oneThird => "one_third"
  | .twoThird => "two_third"
  | .frei => "frei"

def artText : Art → String
  | .funk => "funk"
  | .keinKontakt => "kein_kontakt"

structure KontrolleJson where
  stufe : String
  art : String
  erledigtAt : Zeit
  niedrigsterDruck : Option ℚ

/-- A troop in the answer of `zustand`, as far as the deadlines read it; a time
stands for its ISO text. -/
structure TruppJson where
  id : Nat
  name : String
  status : String
  oneThirdSeconds : Option Nat
  twoThirdSeconds : Option Nat
  maxSeconds : Option Nat
  entryAt : Option Zeit
  notfallAt : Option Zeit
  funkVerlorenAt : Option Zeit
  warnings : List String
  lastPressureAt : Option Zeit
  maxTimeAcked : Bool
  kontrollen : List KontrolleJson

/-- One turn of the loop of `zustand` over the troops. -/
def zustand (fl : Gleitkomma) (now : Zeit) (troop : BreathingTroop) : TruppJson :=
  { id := troop.id
    name := troop.name
    status := troop.status.text
    oneThirdSeconds := troop.oneThirdSeconds
    twoThirdSeconds := troop.twoThirdSeconds
    maxSeconds := troop.maxSeconds
    entryAt := troop.entryAt
    notfallAt := troop.notfallAt
    funkVerlorenAt := troop.funkVerlorenAt
    warnings := (checkTroopWarnings fl troop now).map warnungText
    lastPressureAt := (troop.activePressureLogs.map (·.ts)).max?
    maxTimeAcked := troop.warnMaxTimeAckedAt.isSome
    kontrollen := troop.activeKontrollen.map fun kontrolle =>
      { stufe := stufeText kontrolle.stufe
        art := artText kontrolle.art
        erledigtAt := kontrolle.erledigtAt
        niedrigsterDruck := kontrolle.niedrigsterDruck } }

/-- `utc`: the text holds the microseconds, of which the milliseconds are read. -/
def utc (t : Int) : Int := t / 1000

/-- `parseTroop` -/
def parseTroop (t : TruppJson) : Trupp :=
  { id := t.id
    name := t.name
    status := t.status
    entryAtMs := t.entryAt.map utc
    notfallAtMs := t.notfallAt.map utc
    funkVerlorenAtMs := t.funkVerlorenAt.map utc
    lastPressureAtMs := t.lastPressureAt.map utc
    oneThirdSeconds := t.oneThirdSeconds.map Int.ofNat
    twoThirdSeconds := t.twoThirdSeconds.map Int.ofNat
    maxSeconds := t.maxSeconds.map Int.ofNat
    maxTimeAcked := t.maxTimeAcked
    serverWarnings := t.warnings
    kontrollen := t.kontrollen.map fun k =>
      { stufe := k.stufe, art := k.art, erledigtAtMs := utc k.erledigtAt, niedrigsterDruck := k.niedrigsterDruck } }

/-- A `datetime` of whole milliseconds. -/
def Datum (t : Int) : Prop :=
  1000 ∣ t ∧ -62135596800000000 ≤ t ∧ t ≤ 253402300799999999

def Zulaessig (dauer : Option Nat) : Prop :=
  ∀ minuten, dauer = some minuten → 1 ≤ minuten ∧ minuten ≤ 120

theorem doppelt_eq {n : Int} (small : n.natAbs ≤ 2 ^ 53) : doppelt n = n := if_pos small

theorem fristMs_eq {entry : Int} (datum : Datum entry) {seconds : Int} (positive : 0 ≤ seconds) (bound : seconds ≤ 7200) :
    fristMs (utc entry) seconds = utc entry + seconds * 1000 := by
  obtain ⟨-, low, high⟩ := datum
  have lowMs : -62135596800000 ≤ utc entry := by
    unfold utc
    omega
  have highMs : utc entry ≤ 253402300800000 := by
    unfold utc
    omega
  rw [fristMs, doppelt_eq (n := seconds * 1000) (by omega), doppelt_eq (by omega)]

section Troop

variable (fl : Gleitkomma) (now : Zeit) (troop : BreathingTroop)

theorem kontrolliert_zustand (stufe : Stufe) :
    (parseTroop (zustand fl now troop)).kontrolliert (stufeText stufe) = troop.controlled stufe := by
  simp only [Trupp.kontrolliert, parseTroop, zustand, List.any_map, BreathingTroop.controlled]
  congr 1
  funext kontrolle
  cases h : kontrolle.stufe <;> cases h' : kontrolle.art <;> cases stufe <;> simp [h, h', stufeText, artText]

theorem lastPressure_zustand (at_ : Int) :
    (parseTroop (zustand fl now troop)).lastPressureAtMs.all (· < at_) = true ↔
      ∀ log ∈ troop.activePressureLogs, utc log.ts < at_ := by
  simp only [parseTroop, zustand]
  cases newest : (troop.activePressureLogs.map (·.ts)).max? with
  | none =>
    rw [List.max?_eq_none_iff, List.map_eq_nil_iff] at newest
    simp [newest]
  | some last =>
    obtain ⟨member, greatest⟩ := List.max?_eq_some_iff.mp newest
    obtain ⟨log, inside, rfl⟩ := List.mem_map.mp member
    rw [Option.map_some, Option.all_some, decide_eq_true_eq]
    refine ⟨fun before other known => ?_, fun all => all log inside⟩
    have older : other.ts ≤ log.ts := greatest other.ts (List.mem_map_of_mem known)
    have olderMs : utc other.ts ≤ utc log.ts := Int.ediv_le_ediv (by decide) older
    omega

theorem utc_mul (ms : Int) : utc (1000 * ms) = ms := by
  unfold utc
  omega

theorem frist_zustand {entry : Int} (datum : Datum entry) (nowMs : Int) {seconds : Nat} (positive : 1 ≤ seconds)
    (bound : seconds ≤ 7200) :
    fristMs (utc entry) seconds ≤ nowMs ↔ seconds ≠ 0 ∧ 1000 * nowMs - entry ≥ sekunden seconds := by
  rw [fristMs_eq datum (Int.natCast_nonneg seconds) (by exact_mod_cast bound)]
  obtain ⟨⟨ms, rfl⟩, -⟩ := datum
  have exact_ : sekunden seconds = (seconds : Int) * 1000000 := rfl
  rw [utc_mul, exact_]
  constructor
  · intro due
    exact ⟨by omega, by omega⟩
  · rintro ⟨-, due⟩
    omega

theorem stufenFrist_zustand {entry : Int} (datum : Datum entry) (nowMs : Int) {seconds : Nat} (positive : 1 ≤ seconds)
    (bound : seconds ≤ 7200) (warning : Warnung) (stufe : Stufe)
    (logs : ∀ log ∈ troop.activePressureLogs, 1000 ∣ log.ts) :
    ((stufenFrist (parseTroop (zustand fl now troop)) (utc entry) (some seconds) (warnungText warning)
        (stufeText stufe)).filter fun frist => frist.atServerMs ≤ nowMs).map (·.kind) =
      (stageWarning troop entry (1000 * nowMs) (some seconds) warning stufe).map warnungText := by
  have reported : (parseTroop (zustand fl now troop)).lastPressureAtMs.all (· < fristMs (utc entry) seconds) =
      !troop.reported (entry + sekunden seconds) := by
    rw [Bool.eq_iff_iff, lastPressure_zustand, Bool.not_eq_true', BreathingTroop.reported, List.any_eq_false,
      fristMs_eq datum (Int.natCast_nonneg seconds) (by exact_mod_cast bound)]
    refine forall_congr' fun log => forall_congr' fun member => ?_
    obtain ⟨k, isK⟩ := logs log member
    obtain ⟨⟨ms, rfl⟩, -⟩ := datum
    have exact_ : sekunden seconds = (seconds : Int) * 1000000 := rfl
    rw [decide_eq_true_eq, isK, exact_, utc_mul, utc_mul]
    show k < ms + seconds * 1000 ↔ ¬ 1000 * ms + seconds * 1000000 ≤ 1000 * k
    omega
  simp only [stufenFrist, stageWarning, kontrolliert_zustand, reported]
  by_cases due : fristMs (utc entry) seconds ≤ nowMs
  · rw [if_pos ((frist_zustand datum nowMs positive bound).mp due)]
    cases troop.controlled stufe <;> cases troop.reported (entry + sekunden seconds) <;> simp [due]
  · rw [if_neg fun elapsed => due ((frist_zustand datum nowMs positive bound).mpr elapsed)]
    cases troop.controlled stufe <;> cases troop.reported (entry + sekunden seconds) <;> simp [due]

theorem maxFrist_zustand {entry : Int} (datum : Datum entry) (nowMs : Int) {minuten : Nat} (positive : 1 ≤ minuten)
    (bound : minuten ≤ 120) (planned : troop.plannedDurationMin = some minuten) (id : Int) :
    ((if troop.warnMaxTimeAckedAt.isSome then []
      else [(⟨id, "max_exceeded", fristMs (utc entry) (minuten * 60 : Nat)⟩ : Frist)]).filter
        fun frist => frist.atServerMs ≤ nowMs).map (·.kind) =
      (maxWarning troop entry (1000 * nowMs)).map warnungText := by
  have frist : fristMs (utc entry) (minuten * 60 : Nat) ≤ nowMs ↔
      minuten * 60 ≠ 0 ∧ 1000 * nowMs - entry ≥ sekunden (minuten * 60 : Nat) :=
    frist_zustand datum nowMs (by omega) (by omega)
  simp only [maxWarning, BreathingTroop.maxSeconds, planned, Option.map_some]
  generalize fristMs (utc entry) (minuten * 60 : Nat) = at_ at frist ⊢
  by_cases due : at_ ≤ nowMs
  · rw [if_pos (frist.mp due)]
    cases troop.warnMaxTimeAckedAt <;> simp [due, warnungText]
  · rw [if_neg fun elapsed => due (frist.mpr elapsed)]
    cases troop.warnMaxTimeAckedAt <;> simp [due]

end Troop

theorem timeWarnings_zustand (fl : Gleitkomma) (jetzt : Zeit) (nowMs : Int) {troop : BreathingTroop}
    (dauer : Zulaessig troop.plannedDurationMin) (datum : ∀ entry, troop.entryAt = some entry → Datum entry)
    (logs : ∀ log ∈ troop.pressureLogs, 1000 ∣ log.ts) :
    timeWarnings (parseTroop (zustand fl jetzt troop)) nowMs =
      (getTimeWarnings troop (1000 * nowMs)).map warnungText := by
  have active : ∀ log ∈ troop.activePressureLogs, 1000 ∣ log.ts :=
    fun log member => logs log (List.mem_filter.mp member).1
  have status : ["im_einsatz", "rueckzug"].contains troop.status.text = troop.status.inside := by
    cases troop.status <;> decide
  unfold timeWarnings pendingDeadlines getTimeWarnings
  cases entered : troop.entryAt with
  | none => simp [parseTroop, zustand, entered]
  | some entry =>
    have datum := datum entry entered
    have entryMs : (parseTroop (zustand fl jetzt troop)).entryAtMs = some (utc entry) := by
      simp [parseTroop, zustand, entered]
    have aktiv : isActive (parseTroop (zustand fl jetzt troop)) = troop.status.inside := by
      rw [isActive, entryMs, Option.isSome_some, Bool.true_and]
      exact status
    rw [entryMs, aktiv]
    dsimp only
    cases inside : troop.status.inside with
    | false => rfl
    | true =>
      rw [Bool.not_true, if_neg Bool.false_ne_true, if_pos rfl]
      cases planned : troop.plannedDurationMin with
      | none =>
        simp [parseTroop, zustand, stufenFrist, stageWarning, maxWarning, BreathingTroop.maxSeconds,
          BreathingTroop.twoThirdSeconds, BreathingTroop.oneThirdSeconds, planned]
      | some minuten =>
        obtain ⟨positive, bound⟩ := dauer minuten planned
        have ends := maxFrist_zustand troop datum nowMs positive bound planned troop.id
        have seconds : (parseTroop (zustand fl jetzt troop)).maxSeconds = some ((minuten * 60 : Nat) : Int) ∧
            (parseTroop (zustand fl jetzt troop)).twoThirdSeconds = some ((minuten * 40 : Nat) : Int) ∧
            (parseTroop (zustand fl jetzt troop)).oneThirdSeconds = some ((minuten * 20 : Nat) : Int) := by
          simp only [parseTroop, zustand, BreathingTroop.maxSeconds, BreathingTroop.twoThirdSeconds,
            BreathingTroop.oneThirdSeconds, planned]
          exact ⟨rfl, rfl, rfl⟩
        rw [seconds.1, seconds.2.1, seconds.2.2, List.filter_append, List.filter_append, List.map_append, List.map_append,
          List.map_append, List.map_append]
        refine congr (congrArg _ (congr (congrArg _ ends) ?_)) ?_
        · rw [BreathingTroop.twoThirdSeconds, planned]
          exact stufenFrist_zustand fl jetzt troop datum nowMs (by omega) (by omega) .twoThirdDue .twoThird active
        · rw [BreathingTroop.oneThirdSeconds, planned]
          exact stufenFrist_zustand fl jetzt troop datum nowMs (by omega) (by omega) .oneThirdDue .oneThird active

def angriffstrupp : BreathingTroop :=
  { id := 1, incidentId := 1, name := "Angriff", status := .imEinsatz, plannedDurationMin := some 30, entryAt := some 0 }

theorem timeWarnings_zustand_angriffstrupp :
    Zulaessig angriffstrupp.plannedDurationMin ∧
      timeWarnings (parseTroop (zustand exakt 0 angriffstrupp)) 600000 =
        (getTimeWarnings angriffstrupp (1000 * 600000)).map warnungText ∧
      getTimeWarnings angriffstrupp (1000 * 600000) = [.oneThirdDue] := by
  have dauer : Zulaessig angriffstrupp.plannedDurationMin := by
    rintro minuten planned
    cases planned
    decide
  refine ⟨dauer, timeWarnings_zustand exakt 0 600000 dauer ?_ ?_, by decide⟩
  · rintro entry entered
    cases entered
    exact ⟨by decide, by decide, by decide⟩
  · exact fun log member => absurd member List.not_mem_nil

end Einsatzcockpit.Asuew
