import Einsatzcockpit.Foerderstrecke.Hydraulik
import Einsatzcockpit.Lib.Relay

/-! Mode B, the sites of the pumps along a route, `standort_vorschlag`. -/

namespace Einsatzcockpit.Foerderstrecke

open Relay

section ModusB

/-- The arguments of `standort_vorschlag`. A missing profile is an empty one. -/
structure Vorgabe where
  laengeM : ℚ
  quelleKennlinie : List (ℚ × ℚ)
  relaisKennlinie : List (ℚ × ℚ)
  schlauchK : ℚ≥0
  zielQLMin : ℚ
  nParallel : Int := 1
  hoehenprofil : List (ℚ × Option ℚ) := []
  ansaug : Option Ansaugpunkt := none
  pMinEin : ℚ := 3 / 2
  zielDruckBar : ℚ := 0
  maxAusgangQuelle : Option ℚ := none
  maxAusgangRelais : Option ℚ := none
  armaturenZuschlag : ℚ≥0 := standardZuschlag
  segment : ℚ := segmentM
  segment_pos : 0 < segment := by first | exact segmentM_pos | decide

inductive Planwarnung where
  | eingabe
  | zielQ (pumpe : Typ) (zielQ maxQ : ℚ)
  | saugseite (zielQ saughoehe : ℚ)
  | relaisZuSchwach (zielQ pAus pMinEin : ℚ)
  | zuSteil (s zielQ : ℚ)
  | auslass (p ziel : ℚ)

structure Standort where
  sM : ℚ
  typ : Typ
  pAusBar : ℚ

structure Vorschlag where
  machbar : Bool
  standorte : List Standort
  nRelais : Nat
  nGesamt : Nat
  zielQLMin : ℚ
  pAuslassBar : ℚ
  warnungen : List Planwarnung

/-- The points of a profile that have a height, as curves are lists of pairs too. -/
def stuetzpunkte (hoehenprofil : List (ℚ × Option ℚ)) : List (ℚ × ℚ) := hoehenprofil.filterMap fun (s, h) => h.map (s, ·)

/-- `_hoehe_relativ`, which interpolates a profile as `interpoliere_hoehe` does a curve. -/
def hoeheRelativ (hoehenprofil : List (ℚ × Option ℚ)) (sM s0H : ℚ) : ℚ :=
  match interpoliereHoehe (stuetzpunkte hoehenprofil) sM with
  | none => 0
  | some h => h - s0H

namespace Vorgabe

variable (vorgabe : Vorgabe)

def pAus (kennlinie : List (ℚ × ℚ)) (maxAus : Option ℚ) : ℚ :=
  let p := (interpoliereHoehe kennlinie vorgabe.zielQLMin).getD 0 / meterProBar
  match maxAus with
  | none => p
  | some grenze => min p grenze

def pAusQ : ℚ := vorgabe.pAus vorgabe.quelleKennlinie vorgabe.maxAusgangQuelle
def pAusR : ℚ := vorgabe.pAus vorgabe.relaisKennlinie vorgabe.maxAusgangRelais

def s0H : ℚ := (((stuetzpunkte vorgabe.hoehenprofil).insertionSort fun a b => a.1 ≤ b.1).head?.map (·.2)).getD 0

def reibVoll : ℚ :=
  reibungsverlustBar vorgabe.schlauchK vorgabe.zielQLMin vorgabe.segment vorgabe.nParallel vorgabe.armaturenZuschlag

def seg (s : ℚ) : ℚ := min vorgabe.segment (vorgabe.laengeM - s)

def dh (s : ℚ) : ℚ :=
  hoeheRelativ vorgabe.hoehenprofil (s + vorgabe.seg s) vorgabe.s0H - hoeheRelativ vorgabe.hoehenprofil s vorgabe.s0H

def verlust (s : ℚ) : ℚ := vorgabe.reibVoll * (vorgabe.seg s / vorgabe.segment) + hoehenverlustBar (vorgabe.dh s)

def kennlinienWarnungen : List Planwarnung :=
  [(Typ.quellpumpe, vorgabe.quelleKennlinie), (Typ.verstaerker, vorgabe.relaisKennlinie)].flatMap fun (pumpe, kl) =>
    if kl ≠ [] ∧ kennlinieMaxQ kl < vorgabe.zielQLMin then [.zielQ pumpe vorgabe.zielQLMin (kennlinieMaxQ kl)] else []

def saugWarnungen : List Planwarnung :=
  match vorgabe.ansaug with
  | none => []
  | some ansaug =>
    let saughoehe := ansaug.effektiveSaughoeheM
    if ansaug.maxAnsaughoeheM < saughoehe ∨ verfuegbareSaughoeheM ansaug saughoehe vorgabe.zielQLMin < 0 then
      [.saugseite vorgabe.zielQLMin saughoehe]
    else []

structure Lauf where
  standorte : List Standort
  p : ℚ
  machbar : Bool := true
  s : ℚ := 0
  letzterPumpS : ℚ := 0
  sicherung : Nat := 0
  warnungen : List Planwarnung

def maxIter : Nat := (⌊vorgabe.laengeM / max vorgabe.segment 1⌋ + 10000).toNat

def start : Lauf where
  standorte := [{ sM := 0, typ := .quellpumpe, pAusBar := rundeAuf 2 vorgabe.pAusQ }]
  p := vorgabe.pAusQ
  warnungen := vorgabe.kennlinienWarnungen ++ vorgabe.saugWarnungen

def segmentSchritt (l : Lauf) : Lauf :=
  let l := { l with sicherung := l.sicherung + 1 }
  let verlust := vorgabe.verlust l.s
  if l.p - verlust < vorgabe.pMinEin then
    let pFrisch := vorgabe.pAusR - verlust
    if pFrisch < vorgabe.pMinEin ∨ l.s ≤ l.letzterPumpS + 1 / 10 ^ 6 then
      { l with
        machbar := false
        warnungen := l.warnungen ++
          [if vorgabe.pAusR < vorgabe.pMinEin then .relaisZuSchwach vorgabe.zielQLMin vorgabe.pAusR vorgabe.pMinEin
            else .zuSteil l.s vorgabe.zielQLMin] }
    else
      { l with
        standorte := l.standorte ++ [{ sM := rundeAuf 1 l.s, typ := .verstaerker, pAusBar := rundeAuf 2 vorgabe.pAusR }]
        letzterPumpS := l.s
        p := pFrisch
        s := l.s + vorgabe.seg l.s }
  else { l with p := l.p - verlust, s := l.s + vorgabe.seg l.s }

/-- The loop over the segments. It is left where a segment cannot be done, and only there `machbar` falls. -/
def durchlauf : Nat → Lauf → Lauf
  | 0, l => l
  | fuel + 1, l =>
    if l.machbar ∧ l.s < vorgabe.laengeM - 1 / 10 ^ 6 then durchlauf fuel (vorgabe.segmentSchritt l) else l

def lauf : Lauf := vorgabe.durchlauf vorgabe.maxIter vorgabe.start

end Vorgabe

def standortVorschlag (vorgabe : Vorgabe) : Vorschlag :=
  if vorgabe.zielQLMin ≤ 0 ∨ vorgabe.laengeM ≤ 0 then
    { machbar := false, standorte := [], nRelais := 0, nGesamt := 0, zielQLMin := vorgabe.zielQLMin, pAuslassBar := 0,
      warnungen := [.eingabe] }
  else
    let l := vorgabe.lauf
    let zuNiedrig : Bool := l.machbar && l.p < vorgabe.zielDruckBar
    { machbar := l.machbar && !zuNiedrig
      standorte := l.standorte
      nRelais := l.standorte.countP (·.typ = .verstaerker)
      nGesamt := l.standorte.length
      zielQLMin := vorgabe.zielQLMin
      pAuslassBar := rundeAuf 2 l.p
      warnungen := l.warnungen ++ if zuNiedrig then [.auslass l.p vorgabe.zielDruckBar] else [] }

end ModusB

section Raster

namespace Vorgabe

variable (vorgabe : Vorgabe)

def nSegmente : Nat := ⌈(vorgabe.laengeM - 1 / 10 ^ 6) / vorgabe.segment⌉₊

def rasterAb (i k : Nat) : List ℚ := (List.range' i k).map fun j : Nat => j * vorgabe.segment

def verlusteAb (i k : Nat) : List ℚ := (vorgabe.rasterAb i k).map vorgabe.verlust

def verluste : List ℚ := vorgabe.verlusteAb 0 vorgabe.nSegmente

/-- A placement of relay pumps keeps the pressure up after each segment and at the end. -/
def Zulaessig (relais : List Bool) : Prop :=
  Keeps vorgabe.pMinEin vorgabe.pAusR vorgabe.pAusQ vorgabe.verluste relais ∧
    vorgabe.zielDruckBar ≤ final vorgabe.pAusR vorgabe.pAusQ vorgabe.verluste relais

instance (relais : List Bool) : Decidable (vorgabe.Zulaessig relais) :=
  inferInstanceAs (Decidable (_ ∧ _))

end Vorgabe

def stellen (raster : List ℚ) (relais : List Bool) : List ℚ := ((raster.zip relais).filter (·.2)).map (·.1)

end Raster

section Durchlauf

variable {vorgabe : Vorgabe} {i k fuel : Nat} {l l' : Vorgabe.Lauf} {gesetzt : List Bool}

theorem lt_nSegmente : i < vorgabe.nSegmente ↔ i * vorgabe.segment < vorgabe.laengeM - 1 / 10 ^ 6 := by
  rw [Vorgabe.nSegmente, Nat.lt_ceil, lt_div_iff₀ vorgabe.segment_pos]

theorem verlusteAb_succ : vorgabe.verlusteAb i (k + 1) = vorgabe.verlust (i * vorgabe.segment) :: vorgabe.verlusteAb (i + 1) k := rfl

theorem stellen_cons {s : ℚ} {raster : List ℚ} {relais : Bool} :
    stellen (s :: raster) (relais :: gesetzt) = (if relais then [s] else []) ++ stellen raster gesetzt := by
  unfold stellen
  rw [List.zip_cons_cons, List.filter_cons]
  cases relais <;> simp

def relaispumpe (vorgabe : Vorgabe) (s : ℚ) : Standort := { sM := rundeAuf 1 s, typ := .verstaerker, pAusBar := rundeAuf 2 vorgabe.pAusR }

/-- A segment that can be done, with a relay pump at its start or without. -/
structure Schritt (vorgabe : Vorgabe) (l l' : Vorgabe.Lauf) (relais : Bool) : Prop where
  machbar : l'.machbar = true
  ort : l'.s = l.s + vorgabe.seg l.s
  druck : l'.p = after vorgabe.pAusR l.p (vorgabe.verlust l.s) relais
  standorte : l'.standorte = l.standorte ++ if relais then [relaispumpe vorgabe l.s] else []
  pumpe : l'.letzterPumpS = if relais then l.s else l.letzterPumpS
  sicherung : l'.sicherung = l.sicherung + 1

theorem segmentSchritt_weit (fine : l.machbar = true) (far : vorgabe.pMinEin ≤ l.p - vorgabe.verlust l.s) :
    Schritt vorgabe l (vorgabe.segmentSchritt l) false := by
  unfold Vorgabe.segmentSchritt
  rw [if_neg (not_lt.mpr far)]
  exact ⟨fine, rfl, rfl, (List.append_nil _).symm, rfl, rfl⟩

theorem segmentSchritt_pumpe (fine : l.machbar = true) (due : ¬ vorgabe.pMinEin ≤ l.p - vorgabe.verlust l.s)
    (fit : vorgabe.pMinEin ≤ vorgabe.pAusR - vorgabe.verlust l.s) (gap : l.letzterPumpS + 1 / 10 ^ 6 < l.s) :
    Schritt vorgabe l (vorgabe.segmentSchritt l) true := by
  unfold Vorgabe.segmentSchritt
  rw [if_pos (not_le.mp due), if_neg (not_or.mpr ⟨not_lt.mpr fit, not_le.mpr gap⟩)]
  exact ⟨fine, rfl, rfl, rfl, rfl, rfl⟩

theorem segmentSchritt_abbruch (due : ¬ vorgabe.pMinEin ≤ l.p - vorgabe.verlust l.s)
    (stuck : vorgabe.pAusR - vorgabe.verlust l.s < vorgabe.pMinEin ∨ l.s ≤ l.letzterPumpS + 1 / 10 ^ 6) :
    (vorgabe.segmentSchritt l).machbar = false ∧ (vorgabe.segmentSchritt l).sicherung = l.sicherung + 1 := by
  unfold Vorgabe.segmentSchritt
  rw [if_pos (not_le.mp due), if_pos stuck]
  exact ⟨rfl, rfl⟩

/-- The loop has passed the segments from one on, with these relay pumps. -/
structure Passiert (vorgabe : Vorgabe) (l l' : Vorgabe.Lauf) (i k : Nat) (gesetzt : List Bool) : Prop where
  machbar : l'.machbar = true
  druck : l'.p = final vorgabe.pAusR l.p (vorgabe.verlusteAb i k) gesetzt
  standorte : l'.standorte = l.standorte ++ (stellen (vorgabe.rasterAb i k) gesetzt).map (relaispumpe vorgabe)
  sicherung : l'.sicherung = l.sicherung + k

theorem Schritt.passiert {relais : Bool} {lEnde : Vorgabe.Lauf} (step : Schritt vorgabe l l' relais) (ort : l.s = i * vorgabe.segment)
    (later : Passiert vorgabe l' lEnde (i + 1) k gesetzt) : Passiert vorgabe l lEnde i (k + 1) (relais :: gesetzt) where
  machbar := later.machbar
  druck := by
    rw [later.druck, step.druck, ort]
    rfl
  standorte := by
    have first : vorgabe.rasterAb i (k + 1) = i * vorgabe.segment :: vorgabe.rasterAb (i + 1) k := rfl
    rw [later.standorte, step.standorte, first, stellen_cons, List.append_assoc, List.map_append, ort]
    cases relais <;> rfl
  sicherung := by rw [later.sicherung, step.sicherung, Nat.add_right_comm, Nat.add_assoc]

structure Steht (vorgabe : Vorgabe) (i k : Nat) (l : Vorgabe.Lauf) : Prop where
  rest : i + k = vorgabe.nSegmente
  machbar : l.machbar = true
  ort : 0 < k → l.s = i * vorgabe.segment
  ende : k = 0 → vorgabe.laengeM - 1 / 10 ^ 6 ≤ l.s

theorem Schritt.steht {relais : Bool} (step : Schritt vorgabe l l' relais) (stands : Steht vorgabe i (k + 1) l) :
    Steht vorgabe (i + 1) k l' ∧ (0 < k → l'.s = l.s + vorgabe.segment) := by
  have start := stands.ort (Nat.succ_pos k)
  have total := stands.rest
  have further : (i + 1 : ℚ) * vorgabe.segment < vorgabe.laengeM - 1 / 10 ^ 6 ↔ 0 < k := by
    have last := @lt_nSegmente vorgabe (i + 1)
    rw [Nat.cast_add, Nat.cast_one] at last
    rw [← last]
    omega
  have full : 0 < k → l'.s = l.s + vorgabe.segment := by
    intro more
    have inside := further.mpr more
    rw [step.ort, Vorgabe.seg, min_eq_left (by linarith)]
  refine ⟨⟨by omega, step.machbar, fun more => ?_, fun none_ => ?_⟩, full⟩
  · rw [full more, start, Nat.cast_add, Nat.cast_one, add_mul, one_mul]
  · have last := not_lt.mp (further.not.mpr none_.not_gt)
    rw [step.ort, Vorgabe.seg]
    rcases min_choice vorgabe.segment (vorgabe.laengeM - l.s) with same | same <;> rw [same] <;> linarith

theorem durchlauf_succ (stands : Steht vorgabe i (k + 1) l) :
    vorgabe.durchlauf (fuel + 1) l = vorgabe.durchlauf fuel (vorgabe.segmentSchritt l) := by
  refine if_pos ⟨stands.machbar, ?_⟩
  rw [stands.ort (Nat.succ_pos k)]
  exact lt_nSegmente.mp (by have := stands.rest; omega)

theorem durchlauf_ende (stands : Steht vorgabe i 0 l) : vorgabe.durchlauf fuel l = l := by
  cases fuel with
  | zero => rfl
  | succ fuel => exact if_neg fun both => not_lt.mpr (stands.ende rfl) both.2

theorem durchlauf_abbruch (broken : l.machbar = false) : vorgabe.durchlauf fuel l = l := by
  cases fuel with
  | zero => rfl
  | succ fuel => exact if_neg fun both => Bool.false_ne_true (broken.symm.trans both.1)

def Ergibt (vorgabe : Vorgabe) (l l' : Vorgabe.Lauf) (i k : Nat) : Option (List Bool) → Prop
  | some gesetzt => Passiert vorgabe l l' i k gesetzt
  | none => l'.machbar = false ∧ l'.sicherung ≤ l.sicherung + k

theorem Schritt.ergibt {relais : Bool} {lEnde : Vorgabe.Lauf} {plan : Option (List Bool)} (step : Schritt vorgabe l l' relais)
    (ort : l.s = i * vorgabe.segment) (later : Ergibt vorgabe l' lEnde (i + 1) k plan) :
    Ergibt vorgabe l lEnde i (k + 1) (plan.map (relais :: ·)) := by
  cases plan with
  | some gesetzt => exact step.passiert ort later
  | none => exact ⟨later.1, later.2.trans_eq (by rw [step.sicherung, Nat.add_right_comm, Nat.add_assoc])⟩

theorem durchlauf_late (wide : 1 / 10 ^ 6 < vorgabe.segment) (stands : Steht vorgabe i k l)
    (gap : 0 < k → l.letzterPumpS + 1 / 10 ^ 6 < l.s) (enough : k ≤ fuel) :
    Ergibt vorgabe l (vorgabe.durchlauf fuel l) i k (late vorgabe.pMinEin vorgabe.pAusR l.p (vorgabe.verlusteAb i k)) := by
  induction k generalizing i l fuel with
  | zero =>
    rw [durchlauf_ende stands]
    exact ⟨stands.machbar, rfl, (List.append_nil _).symm, rfl⟩
  | succ k ih =>
    obtain ⟨fuel, rfl⟩ : ∃ n, fuel = n + 1 := ⟨fuel - 1, by omega⟩
    have ort := stands.ort (Nat.succ_pos k)
    have free := gap (Nat.succ_pos k)
    have rest := Nat.le_of_succ_le_succ enough
    rw [durchlauf_succ stands, verlusteAb_succ, late, ← ort]
    by_cases far : vorgabe.pMinEin ≤ l.p - vorgabe.verlust l.s
    · rw [if_pos far]
      have step := segmentSchritt_weit stands.machbar far
      obtain ⟨next, width⟩ := step.steht stands
      have later := ih next (fun more => by rw [width more, step.pumpe]; exact free.trans (lt_add_of_pos_right _ vorgabe.segment_pos)) rest
      rw [step.druck] at later
      exact step.ergibt ort later
    · rw [if_neg far]
      by_cases fit : vorgabe.pMinEin ≤ vorgabe.pAusR - vorgabe.verlust l.s
      · rw [if_pos fit]
        have step := segmentSchritt_pumpe stands.machbar far fit free
        obtain ⟨next, width⟩ := step.steht stands
        have later := ih next (fun more => by rw [width more, step.pumpe]; exact add_lt_add_right wide l.s) rest
        rw [step.druck] at later
        exact step.ergibt ort later
      · rw [if_neg fit]
        obtain ⟨broken, count⟩ := segmentSchritt_abbruch far (Or.inl (not_le.mp fit))
        rw [durchlauf_abbruch broken]
        exact ⟨broken, by omega⟩

end Durchlauf

section Pumpenzahl

def Vorgabe.QuelleReicht (vorgabe : Vorgabe) : Prop := 0 < vorgabe.nSegmente → vorgabe.pMinEin ≤ vorgabe.pAusQ - vorgabe.verlust 0

instance (vorgabe : Vorgabe) : Decidable vorgabe.QuelleReicht := inferInstanceAs (Decidable (_ → _))

variable {vorgabe : Vorgabe}

theorem nSegmente_lt_maxIter (default : vorgabe.segment = segmentM) (long : 0 < vorgabe.laengeM) :
    vorgabe.nSegmente < vorgabe.maxIter := by
  have whole : 0 ≤ ⌊vorgabe.laengeM / segmentM⌋ := Int.floor_nonneg.mpr (div_nonneg long.le (by decide))
  have few : vorgabe.nSegmente ≤ (⌊vorgabe.laengeM / segmentM⌋ + 1).toNat := by
    rw [Vorgabe.nSegmente, default, Nat.ceil_le]
    have upper := (Int.lt_floor_add_one (vorgabe.laengeM / segmentM)).le
    have cast : (((⌊vorgabe.laengeM / segmentM⌋ + 1).toNat : Nat) : ℚ) = (⌊vorgabe.laengeM / segmentM⌋ : ℚ) + 1 := by
      rw [← Int.cast_natCast, Int.toNat_of_nonneg (by omega)]
      push_cast
      rfl
    rw [cast]
    refine (div_le_div_of_nonneg_right ?_ (by decide)).trans upper
    linarith
  have width : max vorgabe.segment 1 = segmentM := by rw [default]; exact max_eq_left (by decide)
  rw [Vorgabe.maxIter, width]
  omega

theorem start_steht (vorgabe : Vorgabe) : Steht vorgabe 0 vorgabe.nSegmente vorgabe.start where
  rest := Nat.zero_add _
  machbar := rfl
  ort _ := by
    rw [Nat.cast_zero, zero_mul]
    rfl
  ende none_ := by
    have last := (@lt_nSegmente vorgabe 0).not.mp (by omega)
    rw [Nat.cast_zero, zero_mul] at last
    exact not_lt.mp last

theorem lauf_late (wide : 1 / 10 ^ 6 < vorgabe.segment) (enough : vorgabe.nSegmente < vorgabe.maxIter)
    (reaches : vorgabe.QuelleReicht) : Ergibt vorgabe vorgabe.start vorgabe.lauf 0 vorgabe.nSegmente
      (late vorgabe.pMinEin vorgabe.pAusR vorgabe.pAusQ vorgabe.verluste) := by
  have stands := start_steht vorgabe
  unfold Vorgabe.QuelleReicht at reaches
  unfold Vorgabe.lauf Vorgabe.verluste
  generalize vorgabe.maxIter = fuel at enough
  generalize vorgabe.nSegmente = n at enough stands reaches
  cases n with
  | zero =>
    rw [durchlauf_ende stands]
    exact ⟨rfl, rfl, (List.append_nil _).symm, rfl⟩
  | succ k =>
    obtain ⟨fuel, rfl⟩ : ∃ n, fuel = n + 1 := ⟨fuel - 1, by omega⟩
    have far := reaches (Nat.succ_pos k)
    have step := @segmentSchritt_weit vorgabe vorgabe.start rfl far
    obtain ⟨next, width⟩ := step.steht stands
    have later := durchlauf_late wide next (fun more => by rw [width more, step.pumpe]; exact add_lt_add_right wide 0)
      (Nat.le_of_lt_succ (Nat.lt_of_succ_lt enough))
    rw [step.druck] at later
    have first : (0 : Nat) * vorgabe.segment = 0 := by rw [Nat.cast_zero, zero_mul]
    rw [durchlauf_succ stands, verlusteAb_succ, first, late, if_pos far]
    exact step.ergibt (stands.ort (Nat.succ_pos k)) later

theorem lauf_abbruch (enough : vorgabe.nSegmente < vorgabe.maxIter) (short : ¬ vorgabe.QuelleReicht) :
    Ergibt vorgabe vorgabe.start vorgabe.lauf 0 vorgabe.nSegmente none := by
  have stands := start_steht vorgabe
  obtain ⟨some_, low⟩ := Classical.not_imp.mp short
  obtain ⟨k, isSucc⟩ : ∃ k, vorgabe.nSegmente = k + 1 := ⟨vorgabe.nSegmente - 1, by omega⟩
  obtain ⟨fuel, isFuel⟩ : ∃ n, vorgabe.maxIter = n + 1 := ⟨vorgabe.maxIter - 1, by omega⟩
  rw [isSucc] at stands ⊢
  obtain ⟨broken, count⟩ := @segmentSchritt_abbruch vorgabe vorgabe.start low (Or.inr (show (0 : ℚ) ≤ 0 + 1 / 10 ^ 6 by norm_num))
  rw [Vorgabe.lauf, isFuel, durchlauf_succ stands, durchlauf_abbruch broken]
  exact ⟨broken, by omega⟩

theorem vorschlag_gesetzt (positive : 0 < vorgabe.zielQLMin ∧ 0 < vorgabe.laengeM) {gesetzt : List Bool}
    (passed : Passiert vorgabe vorgabe.start vorgabe.lauf 0 vorgabe.nSegmente gesetzt) :
    ((standortVorschlag vorgabe).machbar = true ↔ vorgabe.zielDruckBar ≤ final vorgabe.pAusR vorgabe.pAusQ vorgabe.verluste gesetzt) ∧
      (standortVorschlag vorgabe).standorte = vorgabe.start.standorte ++
        (stellen (vorgabe.rasterAb 0 vorgabe.nSegmente) gesetzt).map (relaispumpe vorgabe) := by
  have accepted : ¬ (vorgabe.zielQLMin ≤ 0 ∨ vorgabe.laengeM ≤ 0) := not_or.mpr ⟨not_le.mpr positive.1, not_le.mpr positive.2⟩
  have ende : vorgabe.lauf.p = final vorgabe.pAusR vorgabe.pAusQ vorgabe.verluste gesetzt := passed.druck
  unfold standortVorschlag
  rw [if_neg accepted]
  refine ⟨?_, passed.standorte⟩
  rw [← ende]
  simp [passed.machbar]

theorem runde_intCast (n : Int) : runde n = n := by
  unfold runde
  rw [Int.floor_intCast, sub_self, if_pos (by norm_num)]

theorem rundeAuf_natCast_mul (stellen i : Nat) : rundeAuf stellen (i * segmentM) = i * segmentM := by
  have whole : (i * segmentM * 10 ^ stellen : ℚ) = ((i * 25 * 10 ^ stellen : Int) : ℚ) := by
    push_cast
    rfl
  rw [rundeAuf, whole, runde_intCast, ← whole, mul_div_cancel_right₀ _ (pow_ne_zero _ (by norm_num))]

theorem machbar_iff (default : vorgabe.segment = segmentM) : (standortVorschlag vorgabe).machbar = true ↔
    (0 < vorgabe.zielQLMin ∧ 0 < vorgabe.laengeM) ∧ vorgabe.QuelleReicht ∧
      ∃ gesetzt, late vorgabe.pMinEin vorgabe.pAusR vorgabe.pAusQ vorgabe.verluste = some gesetzt ∧ vorgabe.Zulaessig gesetzt ∧
        Passiert vorgabe vorgabe.start vorgabe.lauf 0 vorgabe.nSegmente gesetzt := by
  by_cases positive : 0 < vorgabe.zielQLMin ∧ 0 < vorgabe.laengeM
  swap
  · have refused : vorgabe.zielQLMin ≤ 0 ∨ vorgabe.laengeM ≤ 0 := by
      rcases not_and_or.mp positive with low | low
      · exact Or.inl (not_lt.mp low)
      · exact Or.inr (not_lt.mp low)
    unfold standortVorschlag
    rw [if_pos refused]
    exact iff_of_false Bool.false_ne_true fun both => positive both.1
  have enough := nSegmente_lt_maxIter default positive.2
  have wide : 1 / 10 ^ 6 < vorgabe.segment := by
    rw [default]
    decide +kernel
  have failed : vorgabe.lauf.machbar = false → ¬ (standortVorschlag vorgabe).machbar = true := by
    intro broken
    have accepted : ¬ (vorgabe.zielQLMin ≤ 0 ∨ vorgabe.laengeM ≤ 0) := not_or.mpr ⟨not_le.mpr positive.1, not_le.mpr positive.2⟩
    unfold standortVorschlag
    rw [if_neg accepted]
    simp [broken]
  rw [and_iff_right positive]
  by_cases reaches : vorgabe.QuelleReicht
  swap
  · exact iff_of_false (failed (lauf_abbruch enough reaches).1) fun both => reaches both.1
  rw [and_iff_right reaches]
  have result := lauf_late wide enough reaches
  cases plan : late vorgabe.pMinEin vorgabe.pAusR vorgabe.pAusQ vorgabe.verluste with
  | none =>
    rw [plan] at result
    exact iff_of_false (failed result.1) (by simp)
  | some gesetzt =>
    rw [plan] at result
    rw [(vorschlag_gesetzt positive result).1]
    constructor
    · exact fun target => ⟨gesetzt, rfl, ⟨late_keeps plan, target⟩, result⟩
    · rintro ⟨_, same, allowed, -⟩
      cases same
      exact allowed.2

end Pumpenzahl

end Einsatzcockpit.Foerderstrecke
