import Einsatzcockpit.Foerderstrecke.Monoton
import Einsatzcockpit.Lib.Bisection

/-! Mode A, the greatest flow of a chain, `berechne_modus_a`. -/

namespace Einsatzcockpit.Foerderstrecke

open Bisection

section ModusA

structure Engpass where
  qMaxLMin : ℚ
  index : Nat
  name : String
  deriving DecidableEq

def engpass (stationen : List PumpenStation) : Option Engpass :=
  (stationen.zipIdx.map fun (st, i) => { qMaxLMin := kennlinieMaxQ st.kennlinie, index := i, name := st.name : Engpass }).argmin
    (·.qMaxLMin)

def machbarBei (ansaug : Ansaugpunkt) (stationen : List PumpenStation) (param : Parameter) (q : ℚ) : Bool :=
  (auswertungBeiQ ansaug stationen param q).machbar

structure ModusA where
  qMaxLMin : ℚ
  machbar : Bool
  druckprofil : List (ℚ × ℚ)
  stationswerte : List Stationswerte
  warnungen : List Warnung
  engpass : Option Engpass

def modusAFluss (ansaug : Ansaugpunkt) (stationen : List PumpenStation) (param : Parameter) (qToleranz qEngpass : ℚ) : Option ℚ :=
  if machbarBei ansaug stationen param (min qToleranz qEngpass) then
    some (if machbarBei ansaug stationen param qEngpass then qEngpass
      else bisect (machbarBei ansaug stationen param) qToleranz 40 0 qEngpass)
  else none

def berechneModusA (ansaug : Ansaugpunkt) (stationen : List PumpenStation) (param : Parameter) (qToleranz : ℚ := 10) : ModusA :=
  match engpass stationen with
  | none => { qMaxLMin := 0, machbar := false, druckprofil := [], stationswerte := [], warnungen := [.keineStation], engpass := none }
  | some enge =>
    match modusAFluss ansaug stationen param qToleranz enge.qMaxLMin with
    | none =>
      let probe := auswertungBeiQ ansaug stationen param (min qToleranz enge.qMaxLMin)
      let voll := auswertungBeiQ ansaug stationen param 0
      { qMaxLMin := 0, machbar := false, druckprofil := voll.druckprofil, stationswerte := voll.stationswerte,
        warnungen := probe.warnungen, engpass := some enge }
    | some lo =>
      let ausw := auswertungBeiQ ansaug stationen param lo
      { qMaxLMin := rundeAuf 1 lo
        machbar := 0 < lo
        druckprofil := ausw.druckprofil.map fun (s, p) => (rundeAuf 1 s, rundeAuf 3 p)
        stationswerte := ausw.stationswerte
        warnungen := ausw.warnungen ++ if enge.qMaxLMin ≤ lo then [.engpass enge.index enge.name enge.qMaxLMin] else []
        engpass := some enge }

end ModusA

section Maximal

/-- The flow is the greatest one up to the tolerance, and where there is none from the
tolerance upwards, none is reported. -/
def Maximal (ansaug : Ansaugpunkt) (stationen : List PumpenStation) (param : Parameter) (qToleranz : ℚ) : Prop :=
  ∀ enge ∈ engpass stationen,
    if (berechneModusA ansaug stationen param qToleranz).machbar = true then
      ∃ lo, modusAFluss ansaug stationen param qToleranz enge.qMaxLMin = some lo ∧
        (berechneModusA ansaug stationen param qToleranz).qMaxLMin = rundeAuf 1 lo ∧
        machbarBei ansaug stationen param lo = true ∧ (∀ st ∈ stationen, lo ≤ kennlinieMaxQ st.kennlinie) ∧
        ∀ q, qToleranz ≤ q → q ≤ enge.qMaxLMin → machbarBei ansaug stationen param q = true → q ≤ lo + qToleranz
    else ∀ q, qToleranz ≤ q → q ≤ enge.qMaxLMin → ¬ machbarBei ansaug stationen param q = true

/-- No flow from the tolerance upwards is feasible, or the tolerance is, and some flow that
halving the bottleneck's maximum comes to, with no feasible one further above it than the
tolerance. -/
def Erreichbar (ansaug : Ansaugpunkt) (stationen : List PumpenStation) (param : Parameter) (qToleranz : ℚ) : Prop :=
  ∀ enge ∈ engpass stationen,
    (∀ q, qToleranz ≤ q → q ≤ enge.qMaxLMin → ¬ machbarBei ansaug stationen param q = true) ∨
    0 ≤ qToleranz ∧ machbarBei ansaug stationen param (min qToleranz enge.qMaxLMin) = true ∧
      ∃ k : Nat, 0 < k * grid qToleranz 40 0 enge.qMaxLMin ∧ k * grid qToleranz 40 0 enge.qMaxLMin ≤ enge.qMaxLMin ∧
        machbarBei ansaug stationen param (k * grid qToleranz 40 0 enge.qMaxLMin) = true ∧
        ∀ q, qToleranz ≤ q → q ≤ enge.qMaxLMin → machbarBei ansaug stationen param q = true →
          q ≤ k * grid qToleranz 40 0 enge.qMaxLMin + qToleranz

variable {ansaug : Ansaugpunkt} {stationen : List PumpenStation} {param : Parameter} {qToleranz : ℚ} {enge : Engpass}

theorem engpass_le (isEnge : enge ∈ engpass stationen) : ∀ st ∈ stationen, enge.qMaxLMin ≤ kennlinieMaxQ st.kennlinie := by
  intro st member
  obtain ⟨i, isAt⟩ := List.mem_iff_getElem?.mp member
  have candidate : ({ qMaxLMin := kennlinieMaxQ st.kennlinie, index := i, name := st.name } : Engpass) ∈
      stationen.zipIdx.map fun (st, i) => { qMaxLMin := kennlinieMaxQ st.kennlinie, index := i, name := st.name : Engpass } :=
    List.mem_map.mpr ⟨(st, i), List.mem_zipIdx_iff_getElem?.mpr isAt, rfl⟩
  exact List.le_of_mem_argmin candidate isEnge

theorem kennlinieMaxQ_nonneg {kennlinie : List (ℚ × ℚ)} (falling : Fallend kennlinie) : 0 ≤ kennlinieMaxQ kennlinie := by
  unfold kennlinieMaxQ
  cases greatest : (kennlinie.map (·.1)).max? with
  | none => exact le_rfl
  | some q =>
    obtain ⟨p, member, rfl⟩ := List.mem_map.mp (List.max?_mem greatest)
    exact falling.2 p member

theorem engpass_nonneg (falling : ∀ st ∈ stationen, Fallend st.kennlinie) (isEnge : enge ∈ engpass stationen) : 0 ≤ enge.qMaxLMin := by
  obtain ⟨⟨st, i⟩, member, rfl⟩ := List.mem_map.mp (List.argmin_mem isEnge)
  exact kennlinieMaxQ_nonneg (falling st (List.mem_of_getElem? (List.mem_zipIdx_iff_getElem?.mp member)))

theorem bisect_machbar (falling : ∀ st ∈ stationen, Fallend st.kennlinie) {n : ℚ} (nonneg : 0 ≤ qToleranz) (below : qToleranz ≤ n)
    (probe : machbarBei ansaug stationen param qToleranz = true) (full : ¬ machbarBei ansaug stationen param n = true) :
    let lo := bisect (machbarBei ansaug stationen param) qToleranz 40 0 n
    (lo = 0 ∨ machbarBei ansaug stationen param lo = true) ∧ (∃ k : Nat, lo = k * grid qToleranz 40 0 n) ∧ 0 ≤ lo ∧ lo ≤ n ∧
      ∀ k : Nat, k * grid qToleranz 40 0 n ≤ n → machbarBei ansaug stationen param (k * grid qToleranz 40 0 n) = true →
        k * grid qToleranz 40 0 n ≤ lo := by
  intro lo
  have strict : qToleranz < n := lt_of_le_of_ne below fun same => full (same ▸ probe)
  have positive : 0 < n := nonneg.trans_lt strict
  have searched : Searched (machbarBei ansaug stationen param) n 0 n :=
    ⟨le_rfl, ⟨positive, le_rfl⟩, Or.inl rfl, fun q _ inside good => lt_of_le_of_ne inside fun same => full (same ▸ good)⟩
  have found := @bisect_greatest ℚ _ _ _ (machbarBei ansaug stationen param) qToleranz qToleranz n
    (fun a b c start _ low high first second => machbar_zwischen falling start low high first second) probe nonneg le_rfl below 40 0 n
    searched
  simp only [zero_add] at found
  exact ⟨found.1, found.2.1, (bisect_mem positive.le).1, (bisect_mem positive.le).2, found.2.2⟩

theorem berechneModusA_none (isEnge : enge ∈ engpass stationen)
    (fluss : modusAFluss ansaug stationen param qToleranz enge.qMaxLMin = none) :
    (berechneModusA ansaug stationen param qToleranz).machbar = false := by
  unfold berechneModusA
  rw [Option.mem_def.mp isEnge]
  dsimp only
  rw [fluss]

theorem berechneModusA_some (isEnge : enge ∈ engpass stationen) {lo : ℚ}
    (fluss : modusAFluss ansaug stationen param qToleranz enge.qMaxLMin = some lo) :
    (berechneModusA ansaug stationen param qToleranz).machbar = decide (0 < lo) ∧
      (berechneModusA ansaug stationen param qToleranz).qMaxLMin = rundeAuf 1 lo := by
  unfold berechneModusA
  rw [Option.mem_def.mp isEnge]
  dsimp only
  rw [fluss]
  exact ⟨rfl, rfl⟩

theorem modusAFluss_le {n lo : ℚ} (nonneg : 0 ≤ n) (fluss : modusAFluss ansaug stationen param qToleranz n = some lo) : lo ≤ n := by
  unfold modusAFluss at fluss
  split_ifs at fluss
  · exact (Option.some.inj fluss).ge
  · rw [← Option.some.inj fluss]
    exact (bisect_mem nonneg).2

theorem maximal_iff (isEnge : enge ∈ engpass stationen) :
    (if (berechneModusA ansaug stationen param qToleranz).machbar = true then
      ∃ lo, modusAFluss ansaug stationen param qToleranz enge.qMaxLMin = some lo ∧
        (berechneModusA ansaug stationen param qToleranz).qMaxLMin = rundeAuf 1 lo ∧
        machbarBei ansaug stationen param lo = true ∧ (∀ st ∈ stationen, lo ≤ kennlinieMaxQ st.kennlinie) ∧
        ∀ q, qToleranz ≤ q → q ≤ enge.qMaxLMin → machbarBei ansaug stationen param q = true → q ≤ lo + qToleranz
    else ∀ q, qToleranz ≤ q → q ≤ enge.qMaxLMin → ¬ machbarBei ansaug stationen param q = true) ↔
    ((∀ q, qToleranz ≤ q → q ≤ enge.qMaxLMin → ¬ machbarBei ansaug stationen param q = true) ∧
        ∀ lo ∈ modusAFluss ansaug stationen param qToleranz enge.qMaxLMin, ¬ 0 < lo) ∨
      ∃ lo ∈ modusAFluss ansaug stationen param qToleranz enge.qMaxLMin, 0 < lo ∧ machbarBei ansaug stationen param lo = true ∧
        (∀ st ∈ stationen, lo ≤ kennlinieMaxQ st.kennlinie) ∧
        ∀ q, qToleranz ≤ q → q ≤ enge.qMaxLMin → machbarBei ansaug stationen param q = true → q ≤ lo + qToleranz := by
  cases fluss : modusAFluss ansaug stationen param qToleranz enge.qMaxLMin with
  | none => simp [berechneModusA_none isEnge fluss]
  | some lo =>
    obtain ⟨machbar, rounded⟩ := berechneModusA_some isEnge fluss
    by_cases positive : 0 < lo
    · simp [machbar, rounded, positive]
    · simp [machbar, positive, not_lt.mp positive]

theorem grid_top (tol n : ℚ) : ((2 ^ halvings tol 40 (n - 0) : Nat) : ℚ) * grid tol 40 0 n = n := by
  rw [grid, Nat.cast_pow, Nat.cast_ofNat, mul_div_cancel₀, sub_zero]
  exact pow_ne_zero _ two_ne_zero

theorem maximal_of_none (isEnge : enge ∈ engpass stationen)
    (none_ : ∀ q, qToleranz ≤ q → q ≤ enge.qMaxLMin → ¬ machbarBei ansaug stationen param q = true) :
    ((∀ q, qToleranz ≤ q → q ≤ enge.qMaxLMin → ¬ machbarBei ansaug stationen param q = true) ∧
        ∀ lo ∈ modusAFluss ansaug stationen param qToleranz enge.qMaxLMin, ¬ 0 < lo) ∨
      ∃ lo ∈ modusAFluss ansaug stationen param qToleranz enge.qMaxLMin, 0 < lo ∧ machbarBei ansaug stationen param lo = true ∧
        (∀ st ∈ stationen, lo ≤ kennlinieMaxQ st.kennlinie) ∧
        ∀ q, qToleranz ≤ q → q ≤ enge.qMaxLMin → machbarBei ansaug stationen param q = true → q ≤ lo + qToleranz := by
  by_cases probe : machbarBei ansaug stationen param (min qToleranz enge.qMaxLMin) = true
  · have small : enge.qMaxLMin < qToleranz := by
      by_contra wide
      rw [min_eq_left (not_lt.mp wide)] at probe
      exact none_ _ le_rfl (not_lt.mp wide) probe
    have full : machbarBei ansaug stationen param enge.qMaxLMin = true := min_eq_right small.le ▸ probe
    have fluss : modusAFluss ansaug stationen param qToleranz enge.qMaxLMin = some enge.qMaxLMin := by
      rw [modusAFluss, if_pos probe, if_pos full]
    rw [fluss]
    by_cases positive : 0 < enge.qMaxLMin
    · exact Or.inr ⟨_, rfl, positive, full, engpass_le isEnge, fun q above below => absurd (above.trans below) (not_le.mpr small)⟩
    · refine Or.inl ⟨none_, fun lo isLo => ?_⟩
      rwa [← Option.some.inj isLo]
  · refine Or.inl ⟨none_, fun lo isLo => ?_⟩
    rw [modusAFluss, if_neg probe] at isLo
    cases isLo

/-- The search for the greatest flow succeeds just where one of the flows that it can come
to is good enough. -/
theorem berechneModusA_maximal (ansaug : Ansaugpunkt) (stationen : List PumpenStation) (param : Parameter) (qToleranz : ℚ)
    (falling : ∀ st ∈ stationen, Fallend st.kennlinie) :
    Maximal ansaug stationen param qToleranz ↔ Erreichbar ansaug stationen param qToleranz := by
  refine forall₂_congr fun enge isEnge => ?_
  rw [maximal_iff isEnge]
  by_cases none_ : ∀ q, qToleranz ≤ q → q ≤ enge.qMaxLMin → ¬ machbarBei ansaug stationen param q = true
  · exact iff_of_true (maximal_of_none isEnge none_) (Or.inl none_)
  rw [or_iff_right fun both => none_ both.1, or_iff_right none_]
  push Not at none_
  obtain ⟨q₀, above, inside, good⟩ := none_
  have below : qToleranz ≤ enge.qMaxLMin := above.trans inside
  rw [min_eq_left below]
  have curves := engpass_le isEnge
  have nonnegTop := engpass_nonneg falling isEnge
  by_cases probe : machbarBei ansaug stationen param qToleranz = true
  swap
  · refine iff_of_false (fun ⟨lo, isLo, _⟩ => ?_) fun both => probe both.2.1
    rw [modusAFluss, min_eq_left below, if_neg probe] at isLo
    cases isLo
  by_cases nonneg : 0 ≤ qToleranz
  swap
  · refine iff_of_false (fun ⟨lo, isLo, positive, feasible, under, greatest⟩ => ?_) fun both => nonneg both.1
    have least := modusAFluss_le nonnegTop isLo
    have self := greatest lo (by linarith) least feasible
    linarith
  rw [and_iff_right nonneg, and_iff_right probe, modusAFluss, min_eq_left below, if_pos probe]
  by_cases full : machbarBei ansaug stationen param enge.qMaxLMin = true
  · rw [if_pos full]
    rcases nonnegTop.eq_or_lt with zero | positive
    · refine iff_of_false (fun ⟨lo, isLo, positive, _⟩ => ?_) fun ⟨k, positive, inside, _⟩ => ?_
      · rw [← Option.some.inj isLo, ← zero] at positive
        exact absurd positive (lt_irrefl _)
      · rw [← zero] at inside positive
        exact absurd (positive.trans_le inside) (lt_irrefl _)
    · refine iff_of_true ⟨_, rfl, positive, full, curves, fun q _ inside _ => by linarith⟩ ⟨2 ^ halvings qToleranz 40 (enge.qMaxLMin - 0), ?_⟩
      rw [grid_top]
      exact ⟨positive, le_rfl, full, fun q _ inside _ => by linarith⟩
  · rw [if_neg full]
    obtain ⟨found, ⟨k₀, isK⟩, start, end_, greatest⟩ := bisect_machbar falling nonneg below probe full
    constructor
    · rintro ⟨lo, isLo, positive, feasible, -, best⟩
      rw [← Option.some.inj isLo] at positive feasible best
      refine ⟨k₀, ?_⟩
      rw [← isK]
      exact ⟨positive, end_, feasible, best⟩
    · rintro ⟨k, positive, inside', feasible, best⟩
      have reached := greatest k inside' feasible
      have positive' := positive.trans_le reached
      refine ⟨_, rfl, positive', found.resolve_left positive'.ne', fun st member => end_.trans (curves st member), fun q above' below' good' => ?_⟩
      exact (best q above' below' good').trans (add_le_add_left reached _)

def steileKennlinie : List (ℚ × ℚ) := [(0, 160), (1000, 60)]

def saugstelle : Ansaugpunkt where
  barometrischeSaughoeheM := 979 / 100
  saugK := 23 / 100

/-- One pump and 100 m of hose, with a limit of the operating pressure or without. -/
def kurzeStrecke (grenze : Option ℚ) : List PumpenStation :=
  [{ kennlinie := steileKennlinie, typ := .quellpumpe,
     abschnittDanach := some { schlauchK := 39 / 25, laengeM := 100, maxBetriebsdruckBar := grenze } }]

def zuschlag5 : Parameter := { armaturenZuschlag := standardZuschlag }

theorem steileKennlinie_fallend (grenze : Option ℚ) : ∀ st ∈ kurzeStrecke grenze, Fallend st.kennlinie := by
  intro st member
  rw [List.mem_singleton.mp member]
  have falling : Fallend steileKennlinie := ⟨by decide +kernel, by decide +kernel⟩
  exact falling

/-- Without a limit the pump's own maximum is found. -/
theorem berechneModusA_maximal_kurz : Maximal saugstelle (kurzeStrecke none) zuschlag5 10 := by
  refine (berechneModusA_maximal saugstelle (kurzeStrecke none) zuschlag5 10 (steileKennlinie_fallend none)).mpr fun enge isEnge => ?_
  have same : engpass (kurzeStrecke none) = some { qMaxLMin := 1000, index := 0, name := "" } := by decide +kernel
  rw [Option.mem_def, same] at isEnge
  rw [← Option.some.inj isEnge]
  have whole := grid_top 10 1000
  refine Or.inr ⟨by decide, by decide +kernel, 2 ^ halvings (10 : ℚ) 40 (1000 - 0), ?_⟩
  rw [whole]
  exact ⟨by decide, le_rfl, by decide +kernel, fun q _ inside _ => inside.trans (by decide +kernel)⟩

/-- With a limit of 15 bar on the hose a small flow has too much pressure. Nothing is said to
be feasible, though 500 l/min are. -/
theorem berechneModusA_ueberdruck : ¬ Maximal saugstelle (kurzeStrecke (some 15)) zuschlag5 10 := by
  intro maximal
  have same : engpass (kurzeStrecke (some 15)) = some { qMaxLMin := 1000, index := 0, name := "" } := by decide +kernel
  have holds := maximal _ same
  rw [if_neg (by decide +kernel)] at holds
  exact holds 500 (by decide) (by decide) (by decide +kernel)

end Maximal

end Einsatzcockpit.Foerderstrecke
