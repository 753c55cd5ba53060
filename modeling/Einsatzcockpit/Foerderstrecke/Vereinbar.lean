import Einsatzcockpit.Foerderstrecke.ModusB
import Einsatzcockpit.Foerderstrecke.Monoton

namespace Einsatzcockpit.Foerderstrecke

open Relay

section Kette

def abschnittHoehenStuetzpunkte (fullProfil : List (ℚ × Option ℚ)) (sStartM sEndM : ℚ) (segment : ℚ := segmentM) : Option (List ℚ) :=
  let pts := stuetzpunkte fullProfil
  if fullProfil = [] ∨ sEndM ≤ sStartM ∨ pts.length < 2 then none
  else
    let hAt := fun s => (interpoliereHoehe pts s).getD 0
    let laenge := sEndM - sStartM
    let n := (max 1 (runde (laenge / segment))).toNat
    some ((List.range (n + 1)).map fun i : Nat => rundeAuf 2 (hAt (sStartM + i / n * laenge) - hAt sStartM))

def grenzToleranz : ℚ := 1 / 1000

namespace Vorgabe

variable (vorgabe : Vorgabe)

def strecke (sStartM sEndM : ℚ) : Abschnitt where
  schlauchK := vorgabe.schlauchK
  laengeM := sEndM - sStartM
  nParallel := vorgabe.nParallel
  hoehenStuetzpunkte := abschnittHoehenStuetzpunkte vorgabe.hoehenprofil sStartM sEndM

def station (standort : Standort) (sEndM : ℚ) : PumpenStation where
  kennlinie := if standort.typ = .quellpumpe then vorgabe.quelleKennlinie else vorgabe.relaisKennlinie
  typ := standort.typ
  maxAusgangsdruckBar := if standort.typ = .quellpumpe then vorgabe.maxAusgangQuelle else vorgabe.maxAusgangRelais
  minEingangsdruckBar := vorgabe.pMinEin - grenzToleranz
  abschnittDanach := some (vorgabe.strecke standort.sM sEndM)

/-- Each pump with the section up to the next site, or to the end of the route. -/
def kette : List Standort → List PumpenStation
  | [] => []
  | standort :: rest => vorgabe.station standort ((rest.head?.map (·.sM)).getD vorgabe.laengeM) :: kette rest

def parameter (hochpunktMinBar : ℚ) : Parameter where
  zielDruckBar := vorgabe.zielDruckBar - grenzToleranz
  armaturenZuschlag := vorgabe.armaturenZuschlag
  hochpunktMinBar := hochpunktMinBar - grenzToleranz

end Vorgabe

/-- Mode B proposes the sites without a warning, on a route of whole segments. -/
structure Geplant (vorgabe : Vorgabe) (ansaug : Ansaugpunkt) (hochpunktMinBar : ℚ) : Prop where
  ansaug : vorgabe.ansaug = some ansaug
  ganz : ∃ n : Nat, vorgabe.laengeM = n * vorgabe.segment
  hochpunkt : hochpunktMinBar ≤ vorgabe.pMinEin
  machbar : (standortVorschlag vorgabe).machbar = true
  warnungen : (standortVorschlag vorgabe).warnungen = []

/-- The chain is feasible in Mode A, with an outlet pressure near the reported one. -/
def HaeltInModusA (vorgabe : Vorgabe) (ansaug : Ansaugpunkt) (hochpunktMinBar toleranz : ℚ) : Prop :=
  let auswertung := auswertungBeiQ ansaug (vorgabe.kette (standortVorschlag vorgabe).standorte) (vorgabe.parameter hochpunktMinBar)
    vorgabe.zielQLMin
  auswertung.machbar = true ∧ (standortVorschlag vorgabe).pAuslassBar - toleranz ≤ auswertung.pAuslassBar

instance (vorgabe : Vorgabe) (ansaug : Ansaugpunkt) (hochpunktMinBar toleranz : ℚ) :
    Decidable (HaeltInModusA vorgabe ansaug hochpunktMinBar toleranz) := inferInstanceAs (Decidable (_ ∧ _))

end Kette

section Rundung

theorem runde_fehler (x : ℚ) : |(runde x : ℚ) - x| ≤ 1 / 2 := by
  have low := Int.floor_le x
  have high := Int.lt_floor_add_one x
  unfold runde
  rw [abs_le]
  split_ifs
  · constructor <;> linarith
  · push_cast
    constructor <;> linarith
  · constructor <;> linarith
  · push_cast
    constructor <;> linarith

theorem rundeAuf_fehler (x : ℚ) : |rundeAuf 2 x - x| ≤ 1 / 200 := by
  have near := abs_le.mp (runde_fehler (x * 10 ^ 2))
  unfold rundeAuf
  rw [abs_le]
  constructor <;> linarith

end Rundung

section Abschnitt

variable {vorgabe : Vorgabe} {n i₀ m j : Nat}

def Vorgabe.hoehe (vorgabe : Vorgabe) (j : Nat) : ℚ := hoeheRelativ vorgabe.hoehenprofil (j * segmentM) vorgabe.s0H

def Vorgabe.gefaelle (vorgabe : Vorgabe) (i₀ m : Nat) : ℚ := vorgabe.reibVoll * m + hoehenverlustBar (vorgabe.hoehe (i₀ + m) - vorgabe.hoehe i₀)

theorem hoehenverlust_add (a b : ℚ) : hoehenverlustBar (a + b) = hoehenverlustBar a + hoehenverlustBar b := add_div ..

theorem verlust_eq (default : vorgabe.segment = segmentM) (inside : ((j + 1 : Nat) : ℚ) * segmentM ≤ vorgabe.laengeM) :
    vorgabe.verlust (j * segmentM) = vorgabe.gefaelle j 1 := by
  have next : (j * segmentM + segmentM : ℚ) = ((j + 1 : Nat) : ℚ) * segmentM := by
    rw [Nat.cast_add, Nat.cast_one, add_mul, one_mul]
  have full : vorgabe.seg (j * segmentM) = segmentM := by
    rw [Vorgabe.seg, default]
    exact min_eq_left (by linarith)
  rw [Vorgabe.verlust, Vorgabe.dh, full, next, default, div_self (by decide), Vorgabe.gefaelle, Nat.cast_one]
  rfl

theorem gefaelle_succ (i₀ m : Nat) : vorgabe.gefaelle i₀ (m + 1) = vorgabe.gefaelle i₀ m + vorgabe.gefaelle (i₀ + m) 1 := by
  unfold Vorgabe.gefaelle
  have height : hoehenverlustBar (vorgabe.hoehe (i₀ + (m + 1)) - vorgabe.hoehe i₀) =
      hoehenverlustBar (vorgabe.hoehe (i₀ + m) - vorgabe.hoehe i₀) + hoehenverlustBar (vorgabe.hoehe (i₀ + m + 1) - vorgabe.hoehe (i₀ + m)) := by
    rw [← hoehenverlust_add, sub_add_sub_cancel', Nat.add_assoc]
  rw [height]
  push_cast
  ring

theorem nSegmente_eq (default : vorgabe.segment = segmentM) (whole : vorgabe.laengeM = n * segmentM) : vorgabe.nSegmente = n := by
  have width : (0 : ℚ) < segmentM := by decide
  refine eq_of_forall_lt_iff fun j => ?_
  rw [lt_nSegmente, default, whole]
  constructor
  · intro inside
    have less : (j : ℚ) * segmentM < n * segmentM := by linarith
    exact_mod_cast (mul_lt_mul_iff_left₀ width).mp less
  · intro less
    have next : ((j + 1 : Nat) : ℚ) * segmentM ≤ n * segmentM := mul_le_mul_of_nonneg_right (by exact_mod_cast less) width.le
    have tiny : (1 / 10 ^ 6 : ℚ) < segmentM := by decide +kernel
    push_cast at next
    linarith

def Vorgabe.stueck (vorgabe : Vorgabe) (i₀ m : Nat) : Abschnitt := vorgabe.strecke (i₀ * segmentM) ((i₀ + m : Nat) * segmentM)

theorem laenge_stueck (i₀ m : Nat) : (vorgabe.stueck i₀ m).laengeM = m * segmentM := by
  unfold Vorgabe.stueck Vorgabe.strecke
  push_cast
  ring

theorem laenge_stueck' (i₀ m : Nat) : (vorgabe.stueck i₀ m).laenge = m * segmentM := by
  rw [Abschnitt.laenge, laenge_stueck, max_eq_left (mul_nonneg (Nat.cast_nonneg m) (by decide))]

theorem runde_grid (m : Nat) : runde (m * segmentM / segmentM) = m := by
  rw [mul_div_cancel_right₀ _ (by decide), ← Int.cast_natCast, runde_intCast]

theorem nSeg_stueck (some_ : 0 < m) : (vorgabe.stueck i₀ m).nSeg = m := by
  have long : (0 : ℚ) < m * segmentM := mul_pos (by exact_mod_cast some_) (by decide)
  rw [Abschnitt.nSeg, laenge_stueck', if_pos long, runde_grid]
  omega

theorem interpoliere_some {pts : List (ℚ × ℚ)} (some_ : pts ≠ []) (s : ℚ) : ∃ h, interpoliereHoehe pts s = some h := by
  have sorted : (pts.insertionSort fun a b => a.1 ≤ b.1) ≠ [] := fun none_ =>
    some_ (List.length_eq_zero_iff.mp (by rw [← List.length_insertionSort (fun a b : ℚ × ℚ => a.1 ≤ b.1), none_, List.length_nil]))
  obtain ⟨erster, rest, isSorted⟩ := List.exists_cons_of_ne_nil sorted
  have last : (erster :: rest).getLast? = some ((erster :: rest).getLast (List.cons_ne_nil erster rest)) :=
    List.getLast?_eq_some_getLast _
  unfold interpoliereHoehe
  rw [isSorted]
  dsimp only
  rw [List.head?_cons, last]
  dsimp only
  split_ifs
  · exact ⟨_, rfl⟩
  · exact ⟨_, rfl⟩
  · split <;> exact ⟨_, rfl⟩

theorem hoehe_eben (few : (stuetzpunkte vorgabe.hoehenprofil).length < 2) (i j : Nat) : vorgabe.hoehe i = vorgabe.hoehe j := by
  unfold Vorgabe.hoehe hoeheRelativ
  match pts : stuetzpunkte vorgabe.hoehenprofil with
  | [] => rfl
  | [p] =>
    have level : ∀ s, interpoliereHoehe [p] s = some p.2 := by
      intro s
      have sorted : ([p].insertionSort fun a b => a.1 ≤ b.1) = [p] := rfl
      unfold interpoliereHoehe
      rw [sorted]
      dsimp only [List.head?_cons, List.getLast?_singleton]
      split_ifs with left right
      · rfl
      · rfl
      · exact absurd (le_of_not_ge left) right
    rw [level, level]
  | p :: q :: rest =>
    rw [pts] at few
    exact absurd few (by simp)

theorem hoehe_sub (some_ : stuetzpunkte vorgabe.hoehenprofil ≠ []) (i j : Nat) :
    (interpoliereHoehe (stuetzpunkte vorgabe.hoehenprofil) (i * segmentM)).getD 0 -
      (interpoliereHoehe (stuetzpunkte vorgabe.hoehenprofil) (j * segmentM)).getD 0 = vorgabe.hoehe i - vorgabe.hoehe j := by
  obtain ⟨h, isH⟩ := interpoliere_some some_ (i * segmentM)
  obtain ⟨h', isH'⟩ := interpoliere_some some_ (j * segmentM)
  unfold Vorgabe.hoehe hoeheRelativ
  rw [isH, isH']
  exact (sub_sub_sub_cancel_right h h' _).symm

theorem profil_stueck (some_ : 0 < m) (many : ¬ (stuetzpunkte vorgabe.hoehenprofil).length < 2) :
    (vorgabe.stueck i₀ m).hoehenStuetzpunkte =
      some ((List.range (m + 1)).map fun j => rundeAuf 2 (vorgabe.hoehe (i₀ + j) - vorgabe.hoehe i₀)) := by
  have long : (0 : ℚ) < m * segmentM := mul_pos (by exact_mod_cast some_) (by decide)
  have width : ((i₀ + m : Nat) : ℚ) * segmentM - i₀ * segmentM = m * segmentM := @laenge_stueck vorgabe i₀ m
  have points : stuetzpunkte vorgabe.hoehenprofil ≠ [] := fun none_ => many (by rw [none_]; decide)
  have profile : vorgabe.hoehenprofil ≠ [] := fun none_ => points (by rw [none_]; rfl)
  have number : (max 1 (runde (m * segmentM / segmentM))).toNat = m := by
    rw [runde_grid]
    omega
  have accepted : ¬ (vorgabe.hoehenprofil = [] ∨ ((i₀ + m : Nat) : ℚ) * segmentM ≤ i₀ * segmentM ∨
      (stuetzpunkte vorgabe.hoehenprofil).length < 2) := by
    rintro (none_ | short | few)
    · exact profile none_
    · linarith
    · exact many few
  unfold Vorgabe.stueck Vorgabe.strecke abschnittHoehenStuetzpunkte
  dsimp only
  rw [if_neg accepted, width, number]
  refine congrArg some (List.map_congr_left fun j _ => ?_)
  have place : (i₀ * segmentM + j / m * (m * segmentM) : ℚ) = ((i₀ + j : Nat) : ℚ) * segmentM := by
    have nonzero : (m : ℚ) ≠ 0 := by exact_mod_cast some_.ne'
    push_cast
    field_simp
  rw [place, hoehe_sub points]

theorem hoeheBei_some {abschnitt : Abschnitt} {profil : List ℚ} (isProfil : abschnitt.hoehenStuetzpunkte = some profil)
    (frac : ℚ) (some_ : profil ≠ [] := by simp) :
    abschnitt.hoeheBei frac = profil.getD (min (profil.length - 1) (runde (frac * (profil.length - 1 : Nat))).toNat) 0 := by
  obtain ⟨erster, rest, rfl⟩ := List.exists_cons_of_ne_nil some_
  unfold Abschnitt.hoeheBei
  rw [isProfil]
  rfl

theorem hoeheBei_stueck (some_ : 0 < m) (inside : j ≤ m) :
    (vorgabe.stueck i₀ m).hoeheBei (j / m) ≤ vorgabe.hoehe (i₀ + j) - vorgabe.hoehe i₀ + 1 / 200 := by
  by_cases few : (stuetzpunkte vorgabe.hoehenprofil).length < 2
  · have none_ : (vorgabe.stueck i₀ m).hoehenStuetzpunkte = none := if_pos (Or.inr (Or.inr few))
    unfold Abschnitt.hoeheBei
    rw [none_, hoehe_eben few (i₀ + j) i₀, sub_self]
    show (0 : ℚ) * _ ≤ _
    norm_num
  · have nonzero : (m : ℚ) ≠ 0 := by exact_mod_cast some_.ne'
    have index : min m (runde (j / m * m)).toNat = j := by
      rw [div_mul_cancel₀ _ nonzero, ← Int.cast_natCast, runde_intCast, Int.toNat_natCast, min_eq_right inside]
    have height : (vorgabe.stueck i₀ m).hoeheBei (j / m) = rundeAuf 2 (vorgabe.hoehe (i₀ + j) - vorgabe.hoehe i₀) := by
      rw [hoeheBei_some (profil_stueck some_ few), List.length_map, List.length_range, Nat.add_sub_cancel, index]
      simp [Nat.lt_succ_of_le inside]
    rw [height]
    linarith [(abs_le.mp (rundeAuf_fehler (vorgabe.hoehe (i₀ + j) - vorgabe.hoehe i₀))).2]

theorem druckBei_stueck (default : vorgabe.segment = segmentM) (some_ : 0 < m) (inside : j ≤ m) (p : ℚ) :
    p - vorgabe.gefaelle i₀ j - 1 / 2000 ≤ (vorgabe.stueck i₀ m).druckBei p vorgabe.zielQLMin vorgabe.armaturenZuschlag (j / m) := by
  have height := @hoeheBei_stueck vorgabe i₀ m j some_ inside
  have friction : reibungsverlustBar vorgabe.schlauchK vorgabe.zielQLMin (m * segmentM) vorgabe.nParallel vorgabe.armaturenZuschlag * (j / m) =
      vorgabe.reibVoll * j := by
    have nonzero : (m : ℚ) ≠ 0 := by exact_mod_cast some_.ne'
    rw [Vorgabe.reibVoll, default]
    unfold reibungsverlustBar
    field_simp
  have fitted : (vorgabe.stueck i₀ m).druckBei p vorgabe.zielQLMin vorgabe.armaturenZuschlag (j / m) =
      p - vorgabe.reibVoll * j - hoehenverlustBar ((vorgabe.stueck i₀ m).hoeheBei (j / m)) := by
    rw [← friction]
    unfold Abschnitt.druckBei
    rw [laenge_stueck']
    rfl
  rw [fitted]
  unfold Vorgabe.gefaelle hoehenverlustBar meterProBar
  linarith

end Abschnitt

section Vereinbar

variable {vorgabe : Vorgabe} {ansaug : Ansaugpunkt} {hochpunktMinBar p₀ : ℚ} {n i₀ m : Nat}

theorem stueck_haelt (default : vorgabe.segment = segmentM) (some_ : 0 < m) (low : hochpunktMinBar ≤ vorgabe.pMinEin)
    (above : ∀ j, 0 < j → j ≤ m → vorgabe.pMinEin ≤ p₀ - vorgabe.gefaelle i₀ j) {p : ℚ} (strong : p₀ ≤ p) :
    Haelt (vorgabe.stueck i₀ m) (hochpunktMinBar - grenzToleranz) p vorgabe.zielQLMin vorgabe.armaturenZuschlag ∧
      p₀ - vorgabe.gefaelle i₀ m - 1 / 2000 ≤ druckEnde (vorgabe.stueck i₀ m) p vorgabe.zielQLMin vorgabe.armaturenZuschlag := by
  have segments := @nSeg_stueck vorgabe i₀ m some_
  refine ⟨⟨(fun grenze isGrenze => nomatch isGrenze), fun j inside => ?_⟩, ?_⟩
  · rw [segments] at inside ⊢
    have kept := above (j + 1) (Nat.succ_pos j) inside.le
    have near := @druckBei_stueck vorgabe i₀ m (j + 1) default some_ inside.le p
    unfold grenzToleranz
    linarith
  · have nonzero : (m : ℚ) ≠ 0 := by exact_mod_cast some_.ne'
    have near := @druckBei_stueck vorgabe i₀ m m default some_ le_rfl p
    rw [div_self nonzero] at near
    rw [druckEnde, segments, if_neg some_.ne']
    linarith

theorem schritt_auslass {param : Parameter} {q : ℚ} {i : Nat} {station : PumpenStation} {folge : Option PumpenStation} {v : Verlauf}
    {abschnitt : Abschnitt} (isAbschnitt : station.abschnittDanach = some abschnitt) (some_ : abschnitt.nSeg ≠ 0) :
    (schritt ansaug param q i station folge v).toAuswertung.pAuslassBar = druckEnde abschnitt
      (pumpePAus station.kennlinie station.maxAusgangsdruckBar q (vordruck ansaug i station v.pEinAktuell)) q param.armaturenZuschlag := by
  unfold schritt
  rw [isAbschnitt]
  dsimp only [Auswertung.pAuslassBar]
  rw [← @profil_ende abschnitt _ q v.s param.armaturenZuschlag]
  unfold abschnittProfil
  rw [List.tail_cons, List.getLastD_cons]
  obtain ⟨k, isSucc⟩ := Nat.exists_eq_succ_of_ne_zero some_
  rw [isSucc, List.range_succ, List.map_append, List.map_singleton, List.getLastD_concat, ← List.append_assoc, List.getLast?_concat]
  rfl

theorem pumpePAus_mono (kennlinie : List (ℚ × ℚ)) (grenze : Option ℚ) (q : ℚ) {p p' : ℚ} (more : p ≤ p') :
    pumpePAus kennlinie grenze q p ≤ pumpePAus kennlinie grenze q p' := by
  unfold pumpePAus
  have sum := add_le_add_left more ((interpoliereHoehe kennlinie q).getD 0 / meterProBar)
  cases grenze with
  | none => exact sum
  | some grenze => exact min_le_min_right grenze sum

theorem pAus_eq (kennlinie : List (ℚ × ℚ)) (maxAus : Option ℚ) : vorgabe.pAus kennlinie maxAus = pumpePAus kennlinie maxAus vorgabe.zielQLMin 0 := by
  unfold Vorgabe.pAus pumpePAus
  cases maxAus <;> simp only [zero_add]

def Vorgabe.stationPAus (vorgabe : Vorgabe) (ansaug : Ansaugpunkt) (i : Nat) (standort : Standort) (pEin : Option ℚ) : ℚ :=
  pumpePAus (vorgabe.station standort 0).kennlinie (vorgabe.station standort 0).maxAusgangsdruckBar vorgabe.zielQLMin
    (vordruck ansaug i (vorgabe.station standort 0) pEin)

theorem relais_stark {s pEin : ℚ} {i : Nat} (later : i ≠ 0) (nonneg : 0 ≤ pEin) :
    vorgabe.pAusR ≤ vorgabe.stationPAus ansaug i (relaispumpe vorgabe s) (some pEin) := by
  rw [Vorgabe.pAusR, pAus_eq]
  refine pumpePAus_mono _ _ _ ?_
  unfold vordruck
  rw [if_neg later]
  exact nonneg

theorem station_haelt (default : vorgabe.segment = segmentM) (some_ : 0 < m) (low : hochpunktMinBar ≤ vorgabe.pMinEin) {i : Nat}
    {v : Verlauf} {standort : Standort} {sEndM : ℚ} {folge : Option PumpenStation}
    (isStueck : vorgabe.strecke standort.sM sEndM = vorgabe.stueck i₀ m) (fine : v.machbar = true)
    (strong : p₀ ≤ vorgabe.stationPAus ansaug i standort v.pEinAktuell)
    (above : ∀ j, 0 < j → j ≤ m → vorgabe.pMinEin ≤ p₀ - vorgabe.gefaelle i₀ j)
    (enough : endeGrenze (vorgabe.zielDruckBar - grenzToleranz) folge ≤ p₀ - vorgabe.gefaelle i₀ m - 1 / 2000) :
    ∃ pEnde, p₀ - vorgabe.gefaelle i₀ m - 1 / 2000 ≤ pEnde ∧
      let v' := schritt ansaug (vorgabe.parameter hochpunktMinBar) vorgabe.zielQLMin i (vorgabe.station standort sEndM) folge v
      v'.machbar = true ∧ v'.toAuswertung.pAuslassBar = pEnde ∧ (folge.isSome → v'.pEinAktuell = some pEnde) := by
  obtain ⟨holds, ende⟩ := stueck_haelt default some_ low above strong
  have isAbschnitt : (vorgabe.station standort sEndM).abschnittDanach = some (vorgabe.stueck i₀ m) := congrArg some isStueck
  refine ⟨_, ende, ?_, ?_, ?_⟩
  · refine schritt_machbar.mpr ⟨fine, fun abschnitt isSome => ?_⟩
    obtain rfl : vorgabe.stueck i₀ m = abschnitt := Option.some.inj (isAbschnitt.symm.trans isSome)
    exact ⟨holds, enough.trans ende⟩
  · exact schritt_auslass isAbschnitt (by rw [nSeg_stueck some_]; exact some_.ne')
  · intro more
    obtain ⟨next, rfl⟩ := Option.isSome_iff_exists.mp more
    rw [schritt_pEin, isAbschnitt]
    rfl

theorem kette_haelt (default : vorgabe.segment = segmentM) (whole : vorgabe.laengeM = n * segmentM) (least : 1 / 2000 ≤ vorgabe.pMinEin)
    (low : hochpunktMinBar ≤ vorgabe.pMinEin) {gesetzt : List Bool} {k i : Nat} {v : Verlauf} {standort : Standort} (total : i₀ + m + k = n)
    (some_ : 0 < m) (place : standort.sM = i₀ * segmentM) (fine : v.machbar = true)
    (strong : p₀ ≤ vorgabe.stationPAus ansaug i standort v.pEinAktuell)
    (above : ∀ j, 0 < j → j ≤ m → vorgabe.pMinEin ≤ p₀ - vorgabe.gefaelle i₀ j)
    (keeps : Keeps vorgabe.pMinEin vorgabe.pAusR (p₀ - vorgabe.gefaelle i₀ m) (vorgabe.verlusteAb (i₀ + m) k) gesetzt)
    (target : vorgabe.zielDruckBar ≤ final vorgabe.pAusR (p₀ - vorgabe.gefaelle i₀ m) (vorgabe.verlusteAb (i₀ + m) k) gesetzt) :
    let ende := verlauf ansaug (vorgabe.parameter hochpunktMinBar) vorgabe.zielQLMin i
      (vorgabe.kette (standort :: (stellen (vorgabe.rasterAb (i₀ + m) k) gesetzt).map (relaispumpe vorgabe))) v
    ende.machbar = true ∧
      final vorgabe.pAusR (p₀ - vorgabe.gefaelle i₀ m) (vorgabe.verlusteAb (i₀ + m) k) gesetzt - 1 / 2000 ≤ ende.toAuswertung.pAuslassBar := by
  have tolerance : grenzToleranz = 1 / 1000 := rfl
  induction k generalizing gesetzt i₀ m i v standort p₀ with
  | zero =>
    cases gesetzt with
    | cons relais gesetzt => exact keeps.elim
    | nil =>
      have isStueck : vorgabe.strecke standort.sM vorgabe.laengeM = vorgabe.stueck i₀ m := by
        rw [Vorgabe.stueck, place, whole, ← total, Nat.add_zero]
      have enough : vorgabe.zielDruckBar - grenzToleranz ≤ p₀ - vorgabe.gefaelle i₀ m - 1 / 2000 := by
        have reached : vorgabe.zielDruckBar ≤ p₀ - vorgabe.gefaelle i₀ m := target
        linarith
      obtain ⟨pEnde, ende, feasible, outlet, -⟩ :=
        @station_haelt vorgabe ansaug _ _ _ _ default some_ low i v standort _ none isStueck fine strong above enough
      exact ⟨feasible, ende.trans_eq outlet.symm⟩
  | succ k ih =>
    have inside : ((i₀ + m + 1 : Nat) : ℚ) * segmentM ≤ vorgabe.laengeM := by
      rw [whole]
      exact mul_le_mul_of_nonneg_right (by exact_mod_cast (by omega : i₀ + m + 1 ≤ n)) (by decide)
    have loss : vorgabe.verlust ((i₀ + m : Nat) * vorgabe.segment) = vorgabe.gefaelle (i₀ + m) 1 := by
      rw [default, verlust_eq default inside]
    cases gesetzt with
    | nil => exact keeps.elim
    | cons relais gesetzt =>
      rw [verlusteAb_succ, loss] at keeps target ⊢
      obtain ⟨kept, later⟩ := keeps
      have raster : vorgabe.rasterAb (i₀ + m) (k + 1) = (i₀ + m : Nat) * segmentM :: vorgabe.rasterAb (i₀ + m + 1) k := by
        rw [← default]
        rfl
      rw [raster, stellen_cons]
      cases relais with
      | false =>
        have further : p₀ - vorgabe.gefaelle i₀ m - vorgabe.gefaelle (i₀ + m) 1 = p₀ - vorgabe.gefaelle i₀ (m + 1) := by
          rw [gefaelle_succ i₀ m, sub_sub]
        have shown : ∀ q, after vorgabe.pAusR q (vorgabe.gefaelle (i₀ + m) 1) false = q - vorgabe.gefaelle (i₀ + m) 1 := fun _ => rfl
        rw [final, shown, further] at target ⊢
        rw [shown, further] at kept later
        refine ih (by omega) (Nat.succ_pos m) place fine strong (fun j positive bound => ?_) later target
        rcases Nat.lt_or_eq_of_le bound with before | rfl
        · exact above j positive (Nat.le_of_lt_succ before)
        · exact kept
      | true =>
        have site : (relaispumpe vorgabe ((i₀ + m : Nat) * segmentM)).sM = (i₀ + m : Nat) * segmentM := rundeAuf_natCast_mul 1 (i₀ + m)
        have isStueck : vorgabe.strecke standort.sM (relaispumpe vorgabe ((i₀ + m : Nat) * segmentM)).sM = vorgabe.stueck i₀ m := by
          rw [site, place]
          rfl
        have last := above m some_ le_rfl
        obtain ⟨pEnde, ende, feasible, -, passed⟩ :=
          @station_haelt vorgabe ansaug _ _ _ _ default some_ low i v standort _
            (vorgabe.kette (relaispumpe vorgabe ((i₀ + m : Nat) * segmentM) ::
              (stellen (vorgabe.rasterAb (i₀ + m + 1) k) gesetzt).map (relaispumpe vorgabe))).head?
            isStueck fine strong above (show vorgabe.pMinEin - grenzToleranz ≤ _ by linarith)
        have inlet := passed rfl
        have relay := @relais_stark vorgabe ansaug ((i₀ + m : Nat) * segmentM) pEnde (i + 1) (Nat.succ_ne_zero i) (by linarith)
        rw [← inlet] at relay
        exact ih (by omega) (Nat.succ_pos 0) site feasible relay (fun j positive bound => by
          obtain rfl : j = 1 := by omega
          exact kept) later target

theorem segmentSchritt_warnungen (l : Vorgabe.Lauf) : ∃ mehr, (vorgabe.segmentSchritt l).warnungen = l.warnungen ++ mehr := by
  unfold Vorgabe.segmentSchritt
  dsimp only
  split
  · split
    · exact ⟨_, rfl⟩
    · exact ⟨[], (List.append_nil _).symm⟩
  · exact ⟨[], (List.append_nil _).symm⟩

theorem durchlauf_warnungen (fuel : Nat) (l : Vorgabe.Lauf) : ∃ mehr, (vorgabe.durchlauf fuel l).warnungen = l.warnungen ++ mehr := by
  induction fuel generalizing l with
  | zero => exact ⟨[], (List.append_nil _).symm⟩
  | succ fuel ih =>
    rw [Vorgabe.durchlauf]
    split
    · obtain ⟨first, isFirst⟩ := @segmentSchritt_warnungen vorgabe l
      obtain ⟨later, isLater⟩ := ih (vorgabe.segmentSchritt l)
      exact ⟨first ++ later, by rw [isLater, isFirst, List.append_assoc]⟩
    · exact ⟨[], (List.append_nil _).symm⟩

theorem Geplant.saugMeldungen (planned : Geplant vorgabe ansaug hochpunktMinBar) : saugMeldungen ansaug vorgabe.zielQLMin = [] := by
  have accepted : ¬ (vorgabe.zielQLMin ≤ 0 ∨ vorgabe.laengeM ≤ 0) := fun refused => by
    have machbar := planned.machbar
    rw [standortVorschlag, if_pos refused] at machbar
    cases machbar
  have quiet := planned.warnungen
  rw [standortVorschlag, if_neg accepted] at quiet
  obtain ⟨more, isMore⟩ := @durchlauf_warnungen vorgabe vorgabe.maxIter vorgabe.start
  have start : vorgabe.start.warnungen = [] := (List.append_eq_nil_iff.mp (isMore.symm.trans (List.append_eq_nil_iff.mp quiet).1)).1
  have suction : vorgabe.saugWarnungen = [] := (List.append_eq_nil_iff.mp start).2
  unfold Vorgabe.saugWarnungen at suction
  rw [planned.ansaug] at suction
  dsimp only at suction
  split_ifs at suction with marginal
  obtain ⟨height, reserve⟩ := not_or.mp marginal
  unfold Foerderstrecke.saugMeldungen
  split
  · rfl
  · dsimp only
    rw [if_neg height, if_neg reserve, List.nil_append]

/-- The sites that Mode B proposes without a warning make a chain that is feasible in Mode A. -/
theorem modusB_haelt (vorgabe : Vorgabe) (ansaug : Ansaugpunkt) (hochpunktMinBar : ℚ) (planned : Geplant vorgabe ansaug hochpunktMinBar)
    (default : vorgabe.segment = segmentM) (least : 1 / 2000 ≤ vorgabe.pMinEin) (feed : ∀ p ∈ ansaug.eingangsdruckBar, 0 ≤ p) :
    HaeltInModusA vorgabe ansaug hochpunktMinBar (11 / 2000) := by
  obtain ⟨n, whole⟩ := planned.ganz
  rw [default] at whole
  obtain ⟨positive, reaches, gesetzt, isLate, allowed, passed⟩ := (machbar_iff default).mp planned.machbar
  obtain ⟨-, sites⟩ := vorschlag_gesetzt positive passed
  have number := nSegmente_eq default whole
  have accepted : ¬ (vorgabe.zielQLMin ≤ 0 ∨ vorgabe.laengeM ≤ 0) := not_or.mpr ⟨not_le.mpr positive.1, not_le.mpr positive.2⟩
  have reported : (standortVorschlag vorgabe).pAuslassBar = rundeAuf 2 vorgabe.lauf.p := by
    unfold standortVorschlag
    rw [if_neg accepted]
  have display := (abs_le.mp (rundeAuf_fehler vorgabe.lauf.p)).2
  have final_ : vorgabe.lauf.p = final vorgabe.pAusR vorgabe.pAusQ vorgabe.verluste gesetzt := passed.druck
  have long := positive.2
  cases n with
  | zero =>
    rw [whole, Nat.cast_zero, zero_mul] at long
    exact absurd long (lt_irrefl 0)
  | succ k =>
    have far : vorgabe.pMinEin ≤ vorgabe.pAusQ - vorgabe.verlust 0 := reaches (by rw [number]; exact Nat.succ_pos k)
    have inside : ((0 + 1 : Nat) : ℚ) * segmentM ≤ vorgabe.laengeM := by
      rw [whole]
      exact mul_le_mul_of_nonneg_right (by exact_mod_cast Nat.succ_le_succ (Nat.zero_le k)) (by decide)
    have origin : ((0 : Nat) : ℚ) * segmentM = 0 := by rw [Nat.cast_zero, zero_mul]
    have loss : vorgabe.verlust 0 = vorgabe.gefaelle 0 1 := by
      rw [← verlust_eq default inside, origin]
    have losses : vorgabe.verluste = vorgabe.gefaelle 0 1 :: vorgabe.verlusteAb (0 + 1) k := by
      rw [Vorgabe.verluste, number, verlusteAb_succ, default, origin, loss]
    rw [loss] at far
    have raster : vorgabe.rasterAb 0 (k + 1) = 0 :: vorgabe.rasterAb (0 + 1) k := by
      rw [← origin, ← default]
      rfl
    rw [losses, late, if_pos far] at isLate
    obtain ⟨rest, isRest, rfl⟩ := Option.map_eq_some_iff.mp isLate
    have keeps := allowed.1
    have target := allowed.2
    rw [losses] at keeps target final_
    rw [number, raster, stellen_cons] at sites
    have strong : vorgabe.pAusQ ≤ vorgabe.stationPAus ansaug 0 { sM := 0, typ := .quellpumpe, pAusBar := rundeAuf 2 vorgabe.pAusQ }
        ansaug.eingangsdruckBar := by
      rw [Vorgabe.pAusQ, pAus_eq]
      refine pumpePAus_mono _ _ _ ?_
      change 0 ≤ ansaug.eingangsdruckBar.getD 0
      cases isFeed : ansaug.eingangsdruckBar with
      | none => exact le_rfl
      | some p => exact feed p isFeed
    obtain ⟨feasible, outlet⟩ := @kette_haelt vorgabe ansaug hochpunktMinBar vorgabe.pAusQ (k + 1) 0 1 default whole least planned.hochpunkt
      rest k 0 { ({} : Auswertung).melde (saugMeldungen ansaug vorgabe.zielQLMin) with pEinAktuell := ansaug.eingangsdruckBar }
      { sM := 0, typ := .quellpumpe, pAusBar := rundeAuf 2 vorgabe.pAusQ } (by omega) Nat.one_pos origin.symm
      (melde_machbar.mpr ⟨rfl, planned.saugMeldungen⟩) strong (fun j positive bound => by
        obtain rfl : j = 1 := by omega
        exact far) keeps.2 target
    unfold HaeltInModusA
    rw [sites, reported, final_]
    rw [final_] at display
    refine ⟨feasible, le_trans ?_ outlet⟩
    change _ ≤ final vorgabe.pAusR vorgabe.pAusQ (vorgabe.gefaelle 0 1 :: vorgabe.verlusteAb (0 + 1) k) (false :: rest) - 1 / 2000
    linarith

def entnahme (eingangsdruckBar : Option ℚ) : Ansaugpunkt where
  barometrischeSaughoeheM := 10
  saugK := 0
  eingangsdruckBar := eingangsdruckBar

def zweiPumpen (laengeM hoeheM : ℚ) (eingangsdruckBar : Option ℚ) (hoehenprofil : List (ℚ × Option ℚ)) : Vorgabe where
  laengeM := laengeM
  quelleKennlinie := [(500, hoeheM)]
  relaisKennlinie := [(500, hoeheM)]
  schlauchK := 0
  zielQLMin := 400
  hoehenprofil := hoehenprofil
  ansaug := some (entnahme eingangsdruckBar)

theorem modusB_haelt_berg : HaeltInModusA (zweiPumpen 75 80 none [(0, some 0), (75, some 120)]) (entnahme none) (1 / 2) (11 / 2000) :=
  modusB_haelt _ _ _ ⟨rfl, ⟨3, by decide +kernel⟩, by decide +kernel, by decide +kernel, by decide +kernel⟩ rfl (by decide +kernel)
    (fun _ isFeed => nomatch isFeed)

/-- Steps of 99.951 dm in each of which the rounded heights take 0.49 mbar more. -/
def stufen : Vorgabe :=
  { zweiPumpen 100 (99951 / 10000) none ((List.range 5).map fun i : Nat => (25 * i, some (i * (99951 / 10000)))) with pMinEin := 0 }

def langesSegment : Vorgabe :=
  { zweiPumpen 50 80 none [(0, some 0), (25, some 75), (50, some 0)] with segment := 50, segment_pos := by decide }

/-- The reported pressure is rounded to 0.01 bar, the rounded heights add up where a relay pump may
have no inlet pressure left, a negative feed pressure counts in Mode A only, and between the ends
of a longer segment Mode B checks nothing. -/
theorem modusB_haelt_nicht :
    (Geplant (zweiPumpen 25 (1003 / 50) none []) (entnahme none) (1 / 2) ∧
      ¬ HaeltInModusA (zweiPumpen 25 (1003 / 50) none []) (entnahme none) (1 / 2) (1 / 1000)) ∧
    (Geplant stufen (entnahme none) 0 ∧ ¬ HaeltInModusA stufen (entnahme none) 0 (11 / 2000)) ∧
    (Geplant (zweiPumpen 25 80 (some (-5)) []) (entnahme (some (-5))) (1 / 2) ∧
      ¬ HaeltInModusA (zweiPumpen 25 80 (some (-5)) []) (entnahme (some (-5))) (1 / 2) (11 / 2000)) ∧
    Geplant langesSegment (entnahme none) (3 / 2) ∧ ¬ HaeltInModusA langesSegment (entnahme none) (3 / 2) (11 / 2000) := by
  refine ⟨⟨⟨rfl, ⟨1, ?_⟩, ?_, ?_, ?_⟩, ?_⟩, ⟨⟨rfl, ⟨4, ?_⟩, ?_, ?_, ?_⟩, ?_⟩, ⟨⟨rfl, ⟨1, ?_⟩, ?_, ?_, ?_⟩, ?_⟩, ⟨rfl, ⟨1, ?_⟩, ?_, ?_, ?_⟩, ?_⟩
  all_goals decide +kernel

end Vereinbar

end Einsatzcockpit.Foerderstrecke
