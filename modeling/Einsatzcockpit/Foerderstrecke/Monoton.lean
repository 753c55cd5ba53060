import Einsatzcockpit.Foerderstrecke.Hydraulik
import Mathlib.Tactic.Positivity

namespace Einsatzcockpit.Foerderstrecke

section Druecke

variable {q q' : ℚ} {kennlinie : List (ℚ × ℚ)}

theorem reibungsverlust_mono (k : ℚ≥0) (nonneg : 0 ≤ q) (more : q ≤ q') {laenge : ℚ} (long : 0 ≤ laenge) (n : Int)
    (zuschlag : ℚ≥0) : reibungsverlustBar k q laenge n zuschlag ≤ reibungsverlustBar k q' laenge n zuschlag := by
  have lines : (0 : ℚ) < (max 1 n : Int) := by exact_mod_cast lt_of_lt_of_le one_pos (le_max_left 1 n)
  unfold reibungsverlustBar
  dsimp only
  gcongr

/-- A characteristic curve as `normalisiere_kennlinie_punkte` leaves it: in order of the flow, which is
not negative, and falling. -/
def Fallend (kennlinie : List (ℚ × ℚ)) : Prop :=
  (kennlinie.Pairwise fun a b => a.1 < b.1 ∧ b.2 ≤ a.2) ∧ ∀ p ∈ kennlinie, 0 ≤ p.1

def stueckweise (q : ℚ) : List (ℚ × ℚ) → ℚ
  | [] => 0
  | [p] => p.2
  | a :: b :: rest =>
    if q ≤ a.1 then a.2
    else if q ≤ b.1 then a.2 + (q - a.1) / (b.1 - a.1) * (b.2 - a.2)
    else stueckweise q (b :: rest)

theorem stueckweise_le {a : ℚ × ℚ} {rest : List (ℚ × ℚ)} (falling : (a :: rest).Pairwise fun a b => a.1 < b.1 ∧ b.2 ≤ a.2) :
    stueckweise q (a :: rest) ≤ a.2 := by
  induction rest generalizing a with
  | nil => exact le_rfl
  | cons b rest ih =>
    obtain ⟨first, later⟩ := List.pairwise_cons.mp falling
    obtain ⟨right, down⟩ := first b (List.mem_cons_self ..)
    rw [stueckweise]
    split_ifs with before within
    · exact le_rfl
    · have share : 0 ≤ (q - a.1) / (b.1 - a.1) := div_nonneg (by linarith) (by linarith)
      have drop := mul_nonneg share (sub_nonneg.mpr down)
      linarith
    · exact (ih later).trans down

section

variable (falling : kennlinie.Pairwise fun a b => a.1 < b.1 ∧ b.2 ≤ a.2)
include falling

theorem stueckweise_antitone
    (more : q ≤ q') : stueckweise q' kennlinie ≤ stueckweise q kennlinie := by
  induction kennlinie with
  | nil => exact le_rfl
  | cons a rest ih =>
    cases rest with
    | nil => exact le_rfl
    | cons b rest =>
      obtain ⟨first, later⟩ := List.pairwise_cons.mp falling
      obtain ⟨right, down⟩ := first b (List.mem_cons_self ..)
      by_cases before : q ≤ a.1
      · have top : stueckweise q (a :: b :: rest) = a.2 := if_pos before
        rw [top]
        exact stueckweise_le falling
      · by_cases within : q' ≤ b.1
        · rw [stueckweise, stueckweise, if_neg before, if_neg (fun le => before (more.trans le)), if_pos within, if_pos (more.trans within)]
          have width : 0 < b.1 - a.1 := sub_pos.mpr right
          have share : (q - a.1) / (b.1 - a.1) ≤ (q' - a.1) / (b.1 - a.1) := by gcongr
          have drop := mul_le_mul_of_nonneg_right share (sub_nonneg.mpr down)
          linarith
        · have after : ¬ q' ≤ a.1 := fun le => within (le.trans right.le)
          rw [stueckweise, if_neg after, if_neg within, stueckweise, if_neg before]
          split_ifs with inside
          · have width : 0 < b.1 - a.1 := sub_pos.mpr right
            have share : (q - a.1) / (b.1 - a.1) ≤ 1 := (div_le_one width).mpr (by linarith)
            have drop := mul_le_mul_of_nonneg_right share (sub_nonneg.mpr down)
            have bound := @stueckweise_le q' b rest later
            linarith
          · exact ih later

theorem stueckweise_last
    {letzter : ℚ × ℚ} (last : kennlinie.getLast? = some letzter) (right : letzter.1 ≤ q) : stueckweise q kennlinie = letzter.2 := by
  induction kennlinie with
  | nil => cases last
  | cons a rest ih =>
    cases rest with
    | nil =>
      cases last
      rfl
    | cons b rest =>
      obtain ⟨first, later⟩ := List.pairwise_cons.mp falling
      rw [List.getLast?_cons_cons] at last
      have beyond : a.1 < letzter.1 := (first letzter (List.mem_of_getLast? last)).1
      rw [stueckweise, if_neg (not_le.mpr (beyond.trans_le right))]
      split_ifs with within
      · cases rest with
        | nil =>
          obtain rfl : b = letzter := Option.some.inj last
          have same : q = b.1 := within.antisymm right
          rw [same, div_self (sub_ne_zero.mpr beyond.ne'), one_mul, add_sub_cancel]
        | cons c rest =>
          have after := ((List.pairwise_cons.mp later).1 letzter (List.mem_of_getLast? (List.getLast?_cons_cons ▸ last))).1
          exact absurd (after.trans_le right) (not_lt.mpr within)
      · exact ih later last

theorem stueck_find
    {letzter : ℚ × ℚ} (last : kennlinie.getLast? = some letzter) (left : ∀ a ∈ kennlinie.head?, a.1 < q) (right : q < letzter.1) :
    ∃ a b, (kennlinie.zip kennlinie.tail).find? (fun (a, b) => a.1 ≤ q ∧ q ≤ b.1) = some (a, b) ∧
      (if b.1 = a.1 then a.2 else a.2 + (q - a.1) / (b.1 - a.1) * (b.2 - a.2)) = stueckweise q kennlinie := by
  induction kennlinie with
  | nil => cases last
  | cons a rest ih =>
    have start := left a rfl
    cases rest with
    | nil =>
      cases last
      exact absurd (start.trans right) (lt_irrefl _)
    | cons b rest =>
      obtain ⟨first, later⟩ := List.pairwise_cons.mp falling
      rw [List.tail_cons, List.zip_cons_cons, List.find?_cons, stueckweise, if_neg (not_le.mpr start)]
      by_cases within : q ≤ b.1
      · refine ⟨a, b, by simp [start.le, within], ?_⟩
        rw [if_pos within, if_neg (first b (List.mem_cons_self ..)).1.ne']
      · have beyond : ∀ c ∈ (b :: rest).head?, c.1 < q := by
          intro c isHead
          cases isHead
          exact not_le.mp within
        obtain ⟨a', b', found, value⟩ := ih later (List.getLast?_cons_cons ▸ last) beyond
        refine ⟨a', b', ?_, by rw [if_neg within, value]⟩
        simpa [within] using found

theorem interpoliere_eq (q : ℚ) :
    (interpoliereHoehe kennlinie q).getD 0 = stueckweise q kennlinie := by
  have sorted : (kennlinie.insertionSort fun a b => a.1 ≤ b.1) = kennlinie :=
    List.Pairwise.insertionSort_eq (falling.imp fun both => both.1.le)
  unfold interpoliereHoehe
  rw [sorted]
  cases kennlinie with
  | nil => rfl
  | cons a rest =>
    obtain ⟨letzter, last⟩ : ∃ letzter, (a :: rest).getLast? = some letzter := ⟨_, List.getLast?_eq_some_getLast (List.cons_ne_nil a rest)⟩
    dsimp only
    rw [last, List.head?_cons]
    dsimp only
    split_ifs with before after
    · rw [Option.getD_some]
      cases rest with
      | nil => rfl
      | cons b rest => exact (if_pos before).symm
    · exact (stueckweise_last falling last after).symm
    · have start : ∀ c ∈ (a :: rest).head?, c.1 < q := by
        intro c isHead
        cases isHead
        exact not_le.mp before
      obtain ⟨x, y, found, value⟩ := stueck_find falling last start (not_le.mp after)
      rw [found]
      exact value

end

theorem pumpePAus_antitone (falling : Fallend kennlinie) (grenze : Option ℚ) {p p' : ℚ}
    (more : q ≤ q') (less : p' ≤ p) : pumpePAus kennlinie grenze q' p' ≤ pumpePAus kennlinie grenze q p := by
  have height := stueckweise_antitone falling.1 more
  unfold pumpePAus
  rw [interpoliere_eq falling.1, interpoliere_eq falling.1]
  have sum : p' + stueckweise q' kennlinie / meterProBar ≤ p + stueckweise q kennlinie / meterProBar := by
    unfold meterProBar
    linarith
  cases grenze with
  | none => exact sum
  | some grenze => exact min_le_min_right grenze sum

theorem druckBei_antitone (abschnitt : Abschnitt) (zuschlag : ℚ≥0) {p p' frac : ℚ} (nonneg : 0 ≤ q) (more : q ≤ q') (less : p' ≤ p)
    (part : 0 ≤ frac) : abschnitt.druckBei p' q' zuschlag frac ≤ abschnitt.druckBei p q zuschlag frac := by
  have friction := mul_le_mul_of_nonneg_right
    (reibungsverlust_mono abschnitt.schlauchK nonneg more (le_max_right abschnitt.laengeM 0) abschnitt.nParallel zuschlag) part
  unfold Abschnitt.druckBei Abschnitt.laenge
  linarith

end Druecke

section Grenzen

def Haelt (abschnitt : Abschnitt) (hochpunktMinBar p q : ℚ) (zuschlag : ℚ≥0) : Prop :=
  (∀ grenze ∈ abschnitt.maxBetriebsdruckBar, p ≤ grenze ∧
    ∀ i < abschnitt.nSeg, abschnitt.druckBei p q zuschlag ((i + 1 : Nat) / abschnitt.nSeg) ≤ grenze) ∧
  ∀ i, i + 1 < abschnitt.nSeg → hochpunktMinBar ≤ abschnitt.druckBei p q zuschlag ((i + 1 : Nat) / abschnitt.nSeg)

def druckEnde (abschnitt : Abschnitt) (p q : ℚ) (zuschlag : ℚ≥0) : ℚ :=
  if abschnitt.nSeg = 0 then p else abschnitt.druckBei p q zuschlag 1

def endeGrenze (zielDruckBar : ℚ) (folge : Option PumpenStation) : ℚ := (folge.map (·.minEin)).getD zielDruckBar

variable {abschnitt : Abschnitt} {hochpunktMinBar p q s : ℚ} {zuschlag : ℚ≥0}

theorem mem_dropLast_range {α : Type} {f : Nat → α} {n : Nat} {t : α} :
    t ∈ ((List.range n).map f).dropLast ↔ ∃ i, i + 1 < n ∧ f i = t := by
  cases n with
  | zero => simp
  | succ n =>
    rw [List.range_succ, List.map_append, List.map_singleton, List.dropLast_concat, List.mem_map]
    simp only [List.mem_range, Nat.add_lt_add_iff_right]

theorem abschnittMeldungen_eq_nil :
    abschnittMeldungen abschnitt hochpunktMinBar (abschnittProfil p abschnitt q s zuschlag) = [] ↔ Haelt abschnitt hochpunktMinBar p q zuschlag := by
  unfold abschnittMeldungen Haelt
  rw [List.append_eq_nil_iff]
  refine and_congr ?_ ?_
  · cases abschnitt.maxBetriebsdruckBar with
    | none => simp
    | some grenze =>
      simp only [Option.toList_eq_nil_iff, Option.map_eq_none_iff, List.find?_eq_none, decide_eq_true_eq, not_lt, Option.mem_def,
        Option.some.injEq, forall_eq', abschnittProfil, List.forall_mem_cons, List.forall_mem_map, List.mem_range]
  · simp only [Option.toList_eq_nil_iff, Option.map_eq_none_iff, List.find?_eq_none, decide_eq_true_eq, not_lt, abschnittProfil,
      List.tail_cons]
    constructor
    · exact fun all i inside => all _ (mem_dropLast_range.mpr ⟨i, inside, rfl⟩)
    · intro all t member
      obtain ⟨i, inside, rfl⟩ := mem_dropLast_range.mp member
      exact all i inside

theorem profil_ende : ((abschnittProfil p abschnitt q s zuschlag).getLastD (s, p)).2 = druckEnde abschnitt p q zuschlag := by
  unfold abschnittProfil druckEnde
  rw [List.getLastD_cons]
  cases steps : abschnitt.nSeg with
  | zero => rfl
  | succ n =>
    rw [List.range_succ, List.map_append, List.map_singleton, List.getLastD_concat, if_neg (Nat.succ_ne_zero n)]
    have whole : ((n + 1 : Nat) : ℚ) / ((n + 1 : Nat) : ℚ) = 1 := div_self (by positivity)
    rw [whole]

theorem endeMeldungen_eq_nil {ziel pEnde : ℚ} {i : Nat} {folge : Option PumpenStation} :
    endeMeldungen ziel i folge pEnde = [] ↔ endeGrenze ziel folge ≤ pEnde := by
  unfold endeMeldungen endeGrenze
  cases folge with
  | none => simp
  | some folge => simp

theorem melde_machbar {a : Auswertung} {meldungen : List Warnung} :
    (a.melde meldungen).machbar = true ↔ a.machbar = true ∧ meldungen = [] := by
  rw [Auswertung.melde, Bool.and_eq_true, List.isEmpty_iff]

end Grenzen

section Zwischen

/-- The courses at three flows, the least of them first: the pressures are ordered, and the
flow between the others is feasible where they both are. -/
structure Zwischen (v₁ v v₂ : Verlauf) : Prop where
  machbar : v₁.machbar = true → v₂.machbar = true → v.machbar = true
  druck : (v₁.pEinAktuell = none ∧ v.pEinAktuell = none ∧ v₂.pEinAktuell = none) ∨
    ∃ p₁ p p₂, v₁.pEinAktuell = some p₁ ∧ v.pEinAktuell = some p ∧ v₂.pEinAktuell = some p₂ ∧ p₂ ≤ p ∧ p ≤ p₁

variable {ansaug : Ansaugpunkt} {param : Parameter} {q₁ q q₂ : ℚ} {station : PumpenStation} {v₁ v v₂ : Verlauf}
  {i : Nat}

theorem Zwischen.vordruck (between : Zwischen v₁ v v₂) (ansaug : Ansaugpunkt) (i : Nat) (station : PumpenStation) :
    Foerderstrecke.vordruck ansaug i station v₂.pEinAktuell ≤ Foerderstrecke.vordruck ansaug i station v.pEinAktuell ∧
      Foerderstrecke.vordruck ansaug i station v.pEinAktuell ≤ Foerderstrecke.vordruck ansaug i station v₁.pEinAktuell := by
  unfold Foerderstrecke.vordruck
  rcases between.druck with ⟨none₁, none_, none₂⟩ | ⟨p₁, p, p₂, is₁, is, is₂, low, high⟩
  · rw [none₁, none_, none₂]
    exact ⟨le_rfl, le_rfl⟩
  · rw [is₁, is, is₂]
    split_ifs
    · exact ⟨le_rfl, le_rfl⟩
    · exact ⟨low, high⟩
    · exact ⟨le_rfl, le_rfl⟩

theorem druckEnde_antitone (abschnitt : Abschnitt) (zuschlag : ℚ≥0) {q q' p p' : ℚ} (nonneg : 0 ≤ q) (more : q ≤ q') (less : p' ≤ p) :
    druckEnde abschnitt p' q' zuschlag ≤ druckEnde abschnitt p q zuschlag := by
  unfold druckEnde
  split
  · exact less
  · exact druckBei_antitone abschnitt zuschlag nonneg more less zero_le_one

theorem Haelt.zwischen {abschnitt : Abschnitt} {hochpunktMinBar p₁ p p₂ : ℚ} {zuschlag : ℚ≥0} (nonneg : 0 ≤ q₁) (low : q₁ ≤ q)
    (high : q ≤ q₂) (below : p₂ ≤ p) (above : p ≤ p₁) (first : Haelt abschnitt hochpunktMinBar p₁ q₁ zuschlag)
    (second : Haelt abschnitt hochpunktMinBar p₂ q₂ zuschlag) : Haelt abschnitt hochpunktMinBar p q zuschlag := by
  have part : ∀ i : Nat, (0 : ℚ) ≤ (i + 1 : Nat) / abschnitt.nSeg := fun i => by positivity
  refine ⟨fun grenze isGrenze => ⟨above.trans (first.1 grenze isGrenze).1, fun i inside => ?_⟩, fun i inside => ?_⟩
  · exact (druckBei_antitone abschnitt zuschlag nonneg low above (part i)).trans ((first.1 grenze isGrenze).2 i inside)
  · exact (second.2 i inside).trans (druckBei_antitone abschnitt zuschlag (nonneg.trans low) high below (part i))

theorem schritt_machbar {folge : Option PumpenStation} : (schritt ansaug param q i station folge v).machbar = true ↔ v.machbar = true ∧
    ∀ abschnitt ∈ station.abschnittDanach,
      Haelt abschnitt param.hochpunktMinBar
        (pumpePAus station.kennlinie station.maxAusgangsdruckBar q (vordruck ansaug i station v.pEinAktuell)) q param.armaturenZuschlag ∧
      endeGrenze param.zielDruckBar folge ≤ druckEnde abschnitt
        (pumpePAus station.kennlinie station.maxAusgangsdruckBar q (vordruck ansaug i station v.pEinAktuell)) q param.armaturenZuschlag := by
  unfold schritt
  cases station.abschnittDanach with
  | none => simp
  | some abschnitt =>
    dsimp only
    rw [melde_machbar, List.append_eq_nil_iff, abschnittMeldungen_eq_nil, endeMeldungen_eq_nil, profil_ende]
    simp only [Option.mem_def, Option.some.injEq, forall_eq']

theorem schritt_pEin {folge : Option PumpenStation} : (schritt ansaug param q i station folge v).pEinAktuell =
    match station.abschnittDanach, folge with
    | some abschnitt, some _ => some (druckEnde abschnitt
        (pumpePAus station.kennlinie station.maxAusgangsdruckBar q (vordruck ansaug i station v.pEinAktuell)) q param.armaturenZuschlag)
    | _, _ => v.pEinAktuell := by
  unfold schritt
  cases station.abschnittDanach with
  | none => rfl
  | some abschnitt =>
    cases folge with
    | none => rfl
    | some folge => exact congrArg some profil_ende

theorem Zwischen.schritt (between : Zwischen v₁ v v₂) (falling : Fallend station.kennlinie) (nonneg : 0 ≤ q₁) (low : q₁ ≤ q)
    (high : q ≤ q₂) (folge : Option PumpenStation) : Zwischen (schritt ansaug param q₁ i station folge v₁)
      (schritt ansaug param q i station folge v) (schritt ansaug param q₂ i station folge v₂) := by
  obtain ⟨inLow, inHigh⟩ := between.vordruck ansaug i station
  have below := pumpePAus_antitone falling station.maxAusgangsdruckBar high inLow
  have above := pumpePAus_antitone falling station.maxAusgangsdruckBar low inHigh
  constructor
  · intro first second
    rw [schritt_machbar] at first second ⊢
    refine ⟨between.machbar first.1 second.1, fun abschnitt isAbschnitt => ?_⟩
    obtain ⟨holds₁, -⟩ := first.2 abschnitt isAbschnitt
    obtain ⟨holds₂, enough⟩ := second.2 abschnitt isAbschnitt
    exact ⟨holds₁.zwischen nonneg low high below above holds₂,
      enough.trans (druckEnde_antitone abschnitt param.armaturenZuschlag (nonneg.trans low) high below)⟩
  · rw [schritt_pEin, schritt_pEin, schritt_pEin]
    cases station.abschnittDanach with
    | none => exact between.druck
    | some abschnitt =>
      cases folge with
      | none => exact between.druck
      | some folge =>
        exact Or.inr ⟨_, _, _, rfl, rfl, rfl, druckEnde_antitone abschnitt param.armaturenZuschlag (nonneg.trans low) high below,
          druckEnde_antitone abschnitt param.armaturenZuschlag nonneg low above⟩

theorem Zwischen.verlauf {stationen : List PumpenStation} (falling : ∀ station ∈ stationen, Fallend station.kennlinie)
    (nonneg : 0 ≤ q₁) (low : q₁ ≤ q) (high : q ≤ q₂) (between : Zwischen v₁ v v₂) : Zwischen (verlauf ansaug param q₁ i stationen v₁)
      (verlauf ansaug param q i stationen v) (verlauf ansaug param q₂ i stationen v₂) := by
  induction stationen generalizing i v₁ v v₂ with
  | nil => exact between
  | cons station rest ih =>
    exact ih (fun st member => falling st (List.mem_cons_of_mem _ member))
      (between.schritt (falling station (List.mem_cons_self ..)) nonneg low high rest.head?)

theorem saugMeldungen_antitone (nonneg : 0 ≤ q) (high : q ≤ q₂) (fine : saugMeldungen ansaug q₂ = []) : saugMeldungen ansaug q = [] := by
  unfold saugMeldungen at fine ⊢
  split at fine
  · next fed => rw [if_pos fed]
  · next open_ =>
    rw [if_neg open_]
    dsimp only at fine ⊢
    rw [List.append_eq_nil_iff] at fine ⊢
    refine ⟨fine.1, if_neg fun short => ?_⟩
    have friction := reibungsverlust_mono ansaug.saugK nonneg high ansaug.saugleitungLaengeM.coe_nonneg ansaug.saugNParallel 0
    have less : verfuegbareSaughoeheM ansaug ansaug.effektiveSaughoeheM q₂ < 0 := by
      unfold verfuegbareSaughoeheM meterProBar at short ⊢
      linarith
    rw [if_pos less] at fine
    exact absurd fine.2 (List.cons_ne_nil _ _)

theorem machbar_zwischen {stationen : List PumpenStation} (falling : ∀ station ∈ stationen, Fallend station.kennlinie)
    (nonneg : 0 ≤ q₁) (low : q₁ ≤ q) (high : q ≤ q₂) (first : (auswertungBeiQ ansaug stationen param q₁).machbar = true)
    (second : (auswertungBeiQ ansaug stationen param q₂).machbar = true) : (auswertungBeiQ ansaug stationen param q).machbar = true := by
  refine (Zwischen.verlauf falling nonneg low high ⟨fun _ suction => ?_, ?_⟩).machbar first second
  · rw [melde_machbar] at suction ⊢
    exact ⟨suction.1, saugMeldungen_antitone (nonneg.trans low) high suction.2⟩
  · cases ansaug.eingangsdruckBar with
    | none => exact Or.inl ⟨rfl, rfl, rfl⟩
    | some p => exact Or.inr ⟨p, p, p, rfl, rfl, rfl, le_rfl, le_rfl⟩

end Zwischen

end Einsatzcockpit.Foerderstrecke
