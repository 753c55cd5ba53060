import Einsatzcockpit.Planspiel.Records

/-! The generator of the sites of a GSL exercise: ticks of any number of workers,
each with what its transaction has read, and the acts of the control. -/

namespace Einsatzcockpit.Planspiel

open Raising Transition

/-- What the generator reads of the column `konfig`, besides the status before a pause. -/
structure GenKonfig where
  mittelS : ℚ := 45
  burstRest : Nat := 0
  deriving DecidableEq

/-- A row of `planspiel_run` with the columns of the generator. -/
structure GslRun extends PlanspielRun where
  konfig : GenKonfig := {}
  naechsteGenSimS : Option ℚ := none
  genSeq : Nat := 0
  maxStellen : Option Nat := none
  maxLaufzeitS : Option Int := none
  deriving DecidableEq

/-- A row of `planspiel_ziel`. -/
structure Ziel where
  seq : Nat
  createdAt : Zeit
  deriving DecidableEq

structure Stand where
  run : GslRun
  ziele : List Ziel
  deriving DecidableEq

/-- The loop of a tick: its time, the limit it has read and the rounds still to come. -/
structure GenTick where
  jetzt : Zeit
  rateLimit : Nat
  runden : Nat
  deriving DecidableEq

/-- What the draws of a round lead to: no scenario, no place, or a site, with the
length of a new burst and the time to the next one. -/
inductive Ziehung where
  | keineSzenarien
  | keinOrt (fehler : String)
  | stelle (burst : Option Nat) (abstand : ℚ)

/-- Where the generator of a worker stands: before the loop, in a round, with a
target that is to be inserted, with one that is inserted and not committed, and
after a commit. -/
inductive GenPhase where
  | frei
  | begonnen (jetzt : Zeit) (stand : Stand)
  | runde (tick : GenTick) (stand : Stand)
  | legtAn (tick : GenTick) (stand : Stand) (ziel : Ziel) (burst : Option Nat) (abstand : ℚ)
  | eingefuegt (tick : GenTick) (stand : Stand) (ziel : Ziel) (burst : Option Nat) (abstand : ℚ)
  | gespeichert (tick : GenTick)
  deriving DecidableEq

/-- The committed rows, the limit of the organisation, the workers and the clock. -/
structure Betrieb where
  run : GslRun
  ziele : List Ziel := []
  rateLimit : Nat := 6
  arbeiter : List GenPhase := []
  uhr : Zeit := 0

/-- `max_stellen` or `max_laufzeit_s` is reached. -/
def obergrenzeErreicht (run : GslRun) (sim : ℚ) : Bool :=
  run.maxStellen.any (· ≤ run.genSeq) || run.maxLaufzeitS.any fun s => decide ((s : ℚ) ≤ sim)

/-- `_generator_stop_auto` -/
def generatorStopAuto (r : GslRun) : GslRun := { r with genAktiv := false, status := .generierungGestoppt }

/-- The next target is due at once in a burst, and else after the drawn time. -/
def nachStelle (gelesen : GslRun) (sim : ℚ) (seq : Nat) (burst : Option Nat) (abstand : ℚ) (r : GslRun) : GslRun :=
  let (burstRest, dueNext) :=
    if 0 < gelesen.konfig.burstRest then (gelesen.konfig.burstRest - 1, (⌊sim⌋ : ℚ))
    else match burst with
      | some laenge => (laenge, (⌊sim⌋ : ℚ))
      | none => (gelesen.konfig.burstRest, (⌊sim + abstand⌋ : ℚ))
  { r with
    konfig := { gelesen.konfig with burstRest }
    statusVorPause := gelesen.statusVorPause
    genSeq := seq
    naechsteGenSimS := some dueNext }

inductive GenRegie where
  | pausieren (jetzt : Zeit)
  | fortsetzen (jetzt : Zeit)
  | folgemeldungen (aktiv : Bool)
  | generatorStoppen
  | generatorFortsetzen (jetzt : Zeit)
  | welleJetzt (jetzt : Zeit) (anzahl : Int)
  | beenden (jetzt : Zeit)

/-- `generator_fortsetzen` -/
def generatorFortsetzenJetzt (gelesen : GslRun) (jetzt : Zeit) : Except String (GslRun → GslRun) := do
  let werte ← generatorFortsetzen gelesen.toPlanspielRun (obergrenzeErreicht gelesen (simSekunden gelesen.toPlanspielRun jetzt))
  return fun r => { r with
    toPlanspielRun := werte r.toPlanspielRun
    naechsteGenSimS := some (sofortFaellig gelesen.toPlanspielRun jetzt) }

/-- `welle_jetzt` -/
def welleJetzt (gelesen : GslRun) (jetzt : Zeit) (anzahl : Int) : Except String (GslRun → GslRun) := do
  require (1 ≤ anzahl ∧ anzahl ≤ 10) "Anzahl muss zwischen 1 und 10 liegen"
  require (gelesen.status = .laeuft ∧ gelesen.genAktiv = true) "Generator ist nicht aktiv"
  return fun r => { r with
    konfig := { gelesen.konfig with burstRest := (anzahl - 1).toNat }
    statusVorPause := gelesen.statusVorPause
    naechsteGenSimS := some (sofortFaellig gelesen.toPlanspielRun jetzt) }

def GenRegie.werte (gelesen : GslRun) : GenRegie → Except String (GslRun → GslRun)
  | .pausieren jetzt => do
    let werte ← Planspiel.pausieren gelesen.toPlanspielRun jetzt
    return fun r => { r with toPlanspielRun := werte r.toPlanspielRun, konfig := gelesen.konfig }
  | .fortsetzen jetzt => do
    let werte ← Planspiel.fortsetzen gelesen.toPlanspielRun jetzt
    return fun r => { r with toPlanspielRun := werte r.toPlanspielRun }
  | .folgemeldungen aktiv => do
    let werte ← folgemeldungenSetzen gelesen.toPlanspielRun aktiv
    return fun r => { r with toPlanspielRun := werte r.toPlanspielRun }
  | .generatorStoppen => do
    let werte ← Planspiel.generatorStoppen gelesen.toPlanspielRun
    return fun r => { r with toPlanspielRun := werte r.toPlanspielRun }
  | .generatorFortsetzen jetzt => generatorFortsetzenJetzt gelesen jetzt
  | .welleJetzt jetzt anzahl => Planspiel.welleJetzt gelesen jetzt anzahl
  | .beenden jetzt => do
    steuerbar gelesen.toPlanspielRun
    return fun r => { r with toPlanspielRun := beendet gelesen.toPlanspielRun jetzt r.toPlanspielRun }

/-- A step: time passes; a worker begins a tick, decides on it, decides on a round,
inserts its target, commits, reads for the next round or breaks off; the control
writes what it has decided on the row it has read. -/
inductive GenAktion where
  | warte (dauer : Nat)
  | beginne (arbeiter : Nat) (jetzt : Zeit)
  | pruefe (arbeiter : Nat)
  | ziehe (arbeiter : Nat) (ziehung : Ziehung)
  | fuegeEin (arbeiter : Nat)
  | speichere (arbeiter : Nat)
  | lies (arbeiter : Nat)
  | brichAb (arbeiter : Nat)
  | steuere (gelesen : GslRun) (regie : GenRegie)

namespace Betrieb

/-- `starten` -/
def start (run : GslRun) (maxStellen : Nat) (maxLaufzeitS : Int) (lageId rateLimit arbeiter : Nat) (jetzt : Zeit) : Betrieb where
  run := { run with
    art := "gsl", status := .laeuft, gestartetAt := some jetzt, lageId := some lageId, genAktiv := true
    naechsteGenSimS := some 0, genSeq := 0, maxStellen := some maxStellen, maxLaufzeitS := some maxLaufzeitS }
  rateLimit
  arbeiter := List.replicate arbeiter .frei
  uhr := jetzt

variable (w : Betrieb)

def stand : Stand := { run := w.run, ziele := w.ziele }

def setze (arbeiter : Nat) (phase : GenPhase) : Betrieb := { w with arbeiter := w.arbeiter.set arbeiter phase }

def setzeRun (werte : GslRun → GslRun) : Betrieb := { w with run := werte w.run }

/-- `generator_schritt` up to its loop. -/
def pruefe (arbeiter : Nat) (jetzt : Zeit) (stand : Stand) : Betrieb :=
  let run := stand.run
  let sim := simSekunden run.toPlanspielRun jetzt
  let due := run.naechsteGenSimS.getD 0
  if run.art ≠ "gsl" ∨ run.status ≠ .laeuft ∨ run.genAktiv = false ∨ run.lageId = none then w.setze arbeiter .frei
  else if obergrenzeErreicht run sim then (w.setzeRun generatorStopAuto).setze arbeiter .frei
  else if 120 < sim - due then (w.setzeRun fun r => { r with naechsteGenSimS := some (⌊sim⌋ : ℚ) }).setze arbeiter .frei
  else w.setze arbeiter (.runde { jetzt, rateLimit := w.rateLimit, runden := 4 } stand)

def ziehe (arbeiter : Nat) (tick : GenTick) (stand : Stand) (ziehung : Ziehung) : Betrieb :=
  let run := stand.run
  let sim := simSekunden run.toPlanspielRun tick.jetzt
  if run.genAktiv = false ∨ run.status ≠ .laeuft ∨ sim < run.naechsteGenSimS.getD 0 then w.setze arbeiter .frei
  else if obergrenzeErreicht run sim then (w.setzeRun generatorStopAuto).setze arbeiter .frei
  else if tick.rateLimit ≤ (stand.ziele.filter (tick.jetzt - minuten 1 ≤ ·.createdAt)).length then w.setze arbeiter .frei
  else match ziehung with
    | .keineSzenarien => (w.setzeRun fun r => { r with
        letzterFehler := some "Keine aktiven GSL-Szenarien für die aktuelle Welle"
        naechsteGenSimS := some (⌊sim + run.konfig.mittelS⌋ : ℚ) }).setze arbeiter .frei
    | .keinOrt fehler => (w.setzeRun fun r => { r with
        letzterFehler := some fehler
        naechsteGenSimS := some (⌊sim + run.konfig.mittelS⌋ : ℚ) }).setze arbeiter .frei
    | .stelle burst abstand =>
      w.setze arbeiter (.legtAn tick stand { seq := run.genSeq + 1, createdAt := w.uhr } burst abstand)

def gesperrt (seq : Nat) : Bool := w.arbeiter.any fun
  | .eingefuegt _ _ ziel _ _ => ziel.seq = seq
  | _ => false

/-- The insert waits for a row with its number that is not committed yet, and
fails on one that is. -/
def fuegeEin (arbeiter : Nat) (tick : GenTick) (stand : Stand) (ziel : Ziel) (burst : Option Nat) (abstand : ℚ) : Betrieb :=
  if ziel.seq ∈ w.ziele.map (·.seq) then w.setze arbeiter .frei
  else if w.gesperrt ziel.seq then w
  else w.setze arbeiter (.eingefuegt tick stand ziel burst abstand)

def speichere (arbeiter : Nat) (tick : GenTick) (stand : Stand) (ziel : Ziel) (burst : Option Nat) (abstand : ℚ) : Betrieb :=
  let sim := simSekunden stand.run.toPlanspielRun tick.jetzt
  { w with
    run := nachStelle stand.run sim ziel.seq burst abstand w.run
    ziele := w.ziele ++ [ziel] }.setze arbeiter (.gespeichert tick)

def step : GenAktion → Betrieb
  | .warte dauer => { w with uhr := w.uhr + dauer }
  | .beginne arbeiter jetzt =>
    if w.arbeiter[arbeiter]? = some .frei ∧ jetzt ≤ w.uhr ∧ w.run.status.running = true then
      w.setze arbeiter (.begonnen jetzt w.stand)
    else w
  | .pruefe arbeiter =>
    match w.arbeiter[arbeiter]? with
    | some (.begonnen jetzt stand) => w.pruefe arbeiter jetzt stand
    | _ => w
  | .ziehe arbeiter ziehung =>
    match w.arbeiter[arbeiter]? with
    | some (.runde tick stand) => w.ziehe arbeiter tick stand ziehung
    | _ => w
  | .fuegeEin arbeiter =>
    match w.arbeiter[arbeiter]? with
    | some (.legtAn tick stand ziel burst abstand) => w.fuegeEin arbeiter tick stand ziel burst abstand
    | _ => w
  | .speichere arbeiter =>
    match w.arbeiter[arbeiter]? with
    | some (.eingefuegt tick stand ziel burst abstand) => w.speichere arbeiter tick stand ziel burst abstand
    | _ => w
  | .lies arbeiter =>
    match w.arbeiter[arbeiter]? with
    | some (.gespeichert tick) =>
      match tick.runden with
      | 0 => w.setze arbeiter .frei
      | runden + 1 => w.setze arbeiter (.runde { tick with runden } w.stand)
    | _ => w
  | .brichAb arbeiter => w.setze arbeiter .frei
  | .steuere gelesen regie =>
    match regie.werte gelesen with
    | .ok werte => w.setzeRun werte
    | .error _ => w

/-- The bounds of the generator: the targets are numbered without gaps, there are
not too many of them, and before each of them fewer than the limit were created in
the minute before. -/
structure Begrenzt : Prop where
  nummern : w.ziele.map (·.seq) = List.range' 1 w.run.genSeq
  anzahl : ∀ m ∈ w.run.maxStellen, w.ziele.length ≤ m
  rate : ∀ vor ziel nach, w.ziele = vor ++ ziel :: nach →
    (vor.filter (ziel.createdAt - minuten 1 ≤ ·.createdAt)).length < w.rateLimit

variable {w : Betrieb} {w' : Betrieb} {stand : Stand} {ziel : Ziel} {phase : GenPhase}

/-- What a transaction has read was committed, and is as far as it goes. -/
structure Gelesen (w : Betrieb) (stand : Stand) : Prop where
  ziele : stand.ziele <+: w.ziele
  genSeq : stand.run.genSeq = stand.ziele.length
  maxStellen : stand.run.maxStellen = w.run.maxStellen

/-- The target is one that the bounds allow after those that have been read. -/
structure Erlaubt (w : Betrieb) (stand : Stand) (ziel : Ziel) : Prop where
  seq : ziel.seq = stand.ziele.length + 1
  anzahl : ∀ m ∈ w.run.maxStellen, stand.ziele.length < m
  rate : (stand.ziele.filter (ziel.createdAt - minuten 1 ≤ ·.createdAt)).length < w.rateLimit

def Weiss (w : Betrieb) : GenPhase → Prop
  | .frei => True
  | .begonnen jetzt stand => jetzt ≤ w.uhr ∧ w.Gelesen stand
  | .runde tick stand => tick.jetzt ≤ w.uhr ∧ tick.rateLimit = w.rateLimit ∧ w.Gelesen stand
  | .legtAn tick stand ziel _ _ => tick.jetzt ≤ w.uhr ∧ tick.rateLimit = w.rateLimit ∧ w.Gelesen stand ∧ w.Erlaubt stand ziel
  | .eingefuegt tick stand ziel _ _ =>
    tick.jetzt ≤ w.uhr ∧ tick.rateLimit = w.rateLimit ∧ stand.ziele = w.ziele ∧ w.Erlaubt stand ziel
  | .gespeichert tick => tick.jetzt ≤ w.uhr ∧ tick.rateLimit = w.rateLimit

def haelt : GenPhase → Bool
  | .eingefuegt .. => true
  | _ => false

/-- The bounds hold, every worker knows what it should, and one at most holds a
row that is not committed. -/
structure Geregelt (w : Betrieb) : Prop where
  begrenzt : w.Begrenzt
  weiss : ∀ (a : Nat) p, w.arbeiter[a]? = some p → w.Weiss p
  einer : ∀ (a b : Nat) p q, w.arbeiter[a]? = some p → w.arbeiter[b]? = some q → haelt p → haelt q → a = b

/-- The committed targets grow, and the limits and the clock hold. -/
structure Spaeter (w w' : Betrieb) : Prop where
  ziele : w.ziele <+: w'.ziele
  maxStellen : w'.run.maxStellen = w.run.maxStellen
  rateLimit : w'.rateLimit = w.rateLimit
  uhr : w.uhr ≤ w'.uhr

theorem Gelesen.spaeter (gelesen : w.Gelesen stand) (spaeter : Spaeter w w') : w'.Gelesen stand :=
  ⟨gelesen.ziele.trans spaeter.ziele, gelesen.genSeq, gelesen.maxStellen.trans spaeter.maxStellen.symm⟩

theorem Erlaubt.spaeter (erlaubt : w.Erlaubt stand ziel) (spaeter : Spaeter w w') : w'.Erlaubt stand ziel :=
  ⟨erlaubt.seq, spaeter.maxStellen ▸ erlaubt.anzahl, spaeter.rateLimit ▸ erlaubt.rate⟩

theorem Weiss.spaeter (weiss : w.Weiss phase) (spaeter : Spaeter w w') (ziele : w'.ziele = w.ziele ∨ haelt phase = false) :
    w'.Weiss phase := by
  cases phase with
  | frei => trivial
  | begonnen jetzt stand => exact ⟨weiss.1.trans spaeter.uhr, weiss.2.spaeter spaeter⟩
  | runde tick stand =>
    exact ⟨weiss.1.trans spaeter.uhr, weiss.2.1.trans spaeter.rateLimit.symm, weiss.2.2.spaeter spaeter⟩
  | legtAn tick stand ziel burst abstand =>
    exact ⟨weiss.1.trans spaeter.uhr, weiss.2.1.trans spaeter.rateLimit.symm, weiss.2.2.1.spaeter spaeter,
      weiss.2.2.2.spaeter spaeter⟩
  | eingefuegt tick stand ziel burst abstand =>
    have same := ziele.resolve_right (by simp [haelt])
    exact ⟨weiss.1.trans spaeter.uhr, weiss.2.1.trans spaeter.rateLimit.symm, weiss.2.2.1.trans same.symm,
      weiss.2.2.2.spaeter spaeter⟩
  | gespeichert tick => exact ⟨weiss.1.trans spaeter.uhr, weiss.2.trans spaeter.rateLimit.symm⟩

def Haelt (werte : GslRun → GslRun) : Prop := ∀ r, (werte r).genSeq = r.genSeq ∧ (werte r).maxStellen = r.maxStellen

theorem regie_haelt {gelesen : GslRun} {regie : GenRegie} {werte : GslRun → GslRun} (ok : regie.werte gelesen = .ok werte) :
    Haelt werte := by
  intro r
  cases regie with
  | welleJetzt jetzt anzahl =>
    simp only [GenRegie.werte, Planspiel.welleJetzt, bind_eq_ok, pure_eq_ok] at ok
    obtain ⟨_, -, _, -, rfl⟩ := ok
    exact ⟨rfl, rfl⟩
  | pausieren | fortsetzen | folgemeldungen | generatorStoppen | generatorFortsetzen | beenden =>
    simp only [GenRegie.werte, generatorFortsetzenJetzt, bind_eq_ok, pure_eq_ok] at ok
    obtain ⟨_, -, rfl⟩ := ok
    exact ⟨rfl, rfl⟩

theorem weiss_set {arbeiter : List GenPhase} {a b : Nat} {p : GenPhase} (found : (arbeiter.set a phase)[b]? = some p) :
    (a = b ∧ p = phase) ∨ (a ≠ b ∧ arbeiter[b]? = some p) := by
  rw [List.getElem?_set] at found
  split_ifs at found with same inside
  · exact Or.inl ⟨same, (Option.some.inj found).symm⟩
  · exact Or.inr ⟨same, found⟩

theorem Begrenzt.setze {a : Nat} (begrenzt : w.Begrenzt) : (w.setze a phase).Begrenzt :=
  ⟨begrenzt.nummern, begrenzt.anzahl, begrenzt.rate⟩

section

variable (geregelt : w.Geregelt)
include geregelt

theorem Geregelt.spaeter (spaeter : Spaeter w w') (begrenzt : w'.Begrenzt)
    (ziele : w'.ziele = w.ziele) (arbeiter : w'.arbeiter = w.arbeiter) : w'.Geregelt := by
  refine ⟨begrenzt, fun a p found => ?_, fun a b p q isP isQ => ?_⟩
  · rw [arbeiter] at found
    exact (geregelt.weiss a p found).spaeter spaeter (Or.inl ziele)
  · rw [arbeiter] at isP isQ
    exact geregelt.einer a b p q isP isQ

theorem Geregelt.setze (a : Nat) (weiss : w.Weiss phase) (frei : haelt phase = false) :
    (w.setze a phase).Geregelt := by
  have spaeter : Spaeter w (w.setze a phase) := ⟨List.prefix_refl _, rfl, rfl, le_refl _⟩
  refine ⟨geregelt.begrenzt.setze, fun b p found => ?_, fun b c p q isP isQ pHolds qHolds => ?_⟩
  · rcases weiss_set found with ⟨-, rfl⟩ | ⟨-, old⟩
    · exact weiss.spaeter spaeter (Or.inl rfl)
    · exact (geregelt.weiss b p old).spaeter spaeter (Or.inl rfl)
  · rcases weiss_set isP with ⟨-, rfl⟩ | ⟨-, oldP⟩
    · rw [frei] at pHolds
      cases pHolds
    · rcases weiss_set isQ with ⟨-, rfl⟩ | ⟨-, oldQ⟩
      · rw [frei] at qHolds
        cases qHolds
      · exact geregelt.einer b c p q oldP oldQ pHolds qHolds

theorem Geregelt.frei (a : Nat) : (w.setze a .frei).Geregelt := geregelt.setze a trivial rfl

theorem Geregelt.setzeRun {werte : GslRun → GslRun} (haelt : Haelt werte) :
    (w.setzeRun werte).Geregelt := by
  obtain ⟨genSeq, maxStellen⟩ := haelt w.run
  have begrenzt := geregelt.begrenzt
  refine geregelt.spaeter ⟨List.prefix_refl _, maxStellen, rfl, le_refl _⟩ ⟨?_, ?_, begrenzt.rate⟩ rfl rfl
  · exact begrenzt.nummern.trans (congrArg (List.range' 1) genSeq.symm)
  · intro m isMax
    exact begrenzt.anzahl m (maxStellen ▸ isMax)

theorem Geregelt.gelesen : w.Gelesen w.stand := by
  refine ⟨List.prefix_refl _, ?_, rfl⟩
  have counted := congrArg List.length geregelt.begrenzt.nummern
  rw [List.length_map, List.length_range'] at counted
  exact counted.symm

theorem Geregelt.pruefe {a : Nat} {jetzt : Zeit} (weiss : w.Weiss (.begonnen jetzt stand)) :
    (w.pruefe a jetzt stand).Geregelt := by
  unfold Betrieb.pruefe
  dsimp only
  split_ifs
  · exact geregelt.frei a
  · refine (geregelt.setzeRun ?_).frei a
    exact fun _ => ⟨rfl, rfl⟩
  · refine (geregelt.setzeRun ?_).frei a
    exact fun _ => ⟨rfl, rfl⟩
  · exact geregelt.setze a ⟨weiss.1, rfl, weiss.2⟩ rfl

theorem Geregelt.ziehe {a : Nat} {tick : GenTick} {ziehung : Ziehung}
    (weiss : w.Weiss (.runde tick stand)) : (w.ziehe a tick stand ziehung).Geregelt := by
  obtain ⟨jetzt, rateLimit, gelesen⟩ := weiss
  unfold Betrieb.ziehe
  dsimp only
  split_ifs with inaktiv erreicht zuViele
  · exact geregelt.frei a
  · refine (geregelt.setzeRun ?_).frei a
    exact fun _ => ⟨rfl, rfl⟩
  · exact geregelt.frei a
  · cases ziehung with
    | keineSzenarien =>
      refine (geregelt.setzeRun ?_).frei a
      exact fun _ => ⟨rfl, rfl⟩
    | keinOrt fehler =>
      refine (geregelt.setzeRun ?_).frei a
      exact fun _ => ⟨rfl, rfl⟩
    | stelle burst abstand =>
      refine geregelt.setze a ⟨jetzt, rateLimit, gelesen, ?_, fun m isMax => ?_, ?_⟩ rfl
      · rw [gelesen.genSeq]
      · rw [← gelesen.maxStellen] at isMax
        rw [← gelesen.genSeq]
        refine Nat.lt_of_not_le fun reached => erreicht ?_
        simp [obergrenzeErreicht, Option.mem_def.mp isMax, reached]
      · -- The minute before now is within the minute before the tick began.
        rw [rateLimit, Nat.not_le] at zuViele
        refine lt_of_le_of_lt (List.Sublist.length_le ?_) zuViele
        refine List.monotone_filter_right _ fun z recent => ?_
        have after : w.uhr - minuten 1 ≤ z.createdAt := of_decide_eq_true recent
        exact decide_eq_true ((sub_le_sub_right jetzt _).trans after)

theorem Geregelt.naechste (gelesen : w.Gelesen stand) (erlaubt : w.Erlaubt stand ziel)
    (neu : ziel.seq ∉ w.ziele.map (·.seq)) : stand.ziele = w.ziele := by
  have known : w.run.genSeq = w.ziele.length := geregelt.gelesen.genSeq
  have bound := gelesen.ziele.length_le
  rw [geregelt.begrenzt.nummern, List.mem_range'_1, erlaubt.seq, known] at neu
  exact gelesen.ziele.eq_of_length (by omega)

theorem Geregelt.fuegeEin {a : Nat} {tick : GenTick} {burst : Option Nat} {abstand : ℚ}
    (weiss : w.Weiss (.legtAn tick stand ziel burst abstand)) : (w.fuegeEin a tick stand ziel burst abstand).Geregelt := by
  obtain ⟨jetzt, rateLimit, gelesen, erlaubt⟩ := weiss
  unfold Betrieb.fuegeEin
  split_ifs with vergeben gesperrt
  · exact geregelt.frei a
  · exact geregelt
  · have all := geregelt.naechste gelesen erlaubt vergeben
    -- A row that another worker holds has the next number too.
    have niemand : ∀ (b : Nat) p, w.arbeiter[b]? = some p → haelt p = false := by
      intro b p found
      cases p with
      | eingefuegt tick' stand' ziel' burst' abstand' =>
        obtain ⟨-, -, all', erlaubt'⟩ := geregelt.weiss b _ found
        refine absurd (List.any_eq_true.mpr ⟨_, List.mem_of_getElem? found, ?_⟩) gesperrt
        rw [decide_eq_true_eq, erlaubt'.seq, erlaubt.seq, all', all]
      | _ => rfl
    refine ⟨geregelt.begrenzt.setze, fun b p found => ?_, fun b c p q isP isQ pHolds qHolds => ?_⟩
    · rcases weiss_set found with ⟨-, rfl⟩ | ⟨-, old⟩
      · exact ⟨jetzt, rateLimit, all, erlaubt.spaeter ⟨List.prefix_refl _, rfl, rfl, le_refl _⟩⟩
      · exact (geregelt.weiss b p old).spaeter ⟨List.prefix_refl _, rfl, rfl, le_refl _⟩ (Or.inl rfl)
    · rcases weiss_set isP with ⟨rfl, -⟩ | ⟨-, oldP⟩
      · rcases weiss_set isQ with ⟨rfl, -⟩ | ⟨-, oldQ⟩
        · rfl
        · rw [niemand c q oldQ] at qHolds
          cases qHolds
      · rw [niemand b p oldP] at pHolds
        cases pHolds

end

theorem Begrenzt.speichere (begrenzt : w.Begrenzt) (erlaubt : w.Erlaubt stand ziel) (all : stand.ziele = w.ziele)
    (ziele : w'.ziele = w.ziele ++ [ziel]) (genSeq : w'.run.genSeq = ziel.seq) (maxStellen : w'.run.maxStellen = w.run.maxStellen)
    (rateLimit : w'.rateLimit = w.rateLimit) : w'.Begrenzt := by
  have counted := congrArg List.length begrenzt.nummern
  rw [List.length_map, List.length_range'] at counted
  have seq := erlaubt.seq
  rw [all] at seq
  refine ⟨?_, fun m isMax => ?_, fun vor z nach split => ?_⟩
  · rw [ziele, genSeq, List.map_append, begrenzt.nummern, seq, List.range'_concat, ← counted, List.map_singleton, seq]
    simp [Nat.add_comm]
  · rw [ziele, List.length_append, List.length_singleton, ← all]
    exact erlaubt.anzahl m (maxStellen ▸ isMax)
  · rw [ziele] at split
    rw [rateLimit]
    rcases List.eq_nil_or_concat' nach with rfl | ⟨nach, last, rfl⟩
    · obtain ⟨rfl, isZiel⟩ := List.append_inj' split rfl
      rw [← all, ← List.singleton_inj.mp isZiel]
      exact erlaubt.rate
    · rw [← List.cons_append, ← List.append_assoc] at split
      exact begrenzt.rate vor z nach (List.append_inj' split rfl).1

theorem Geregelt.speichere (geregelt : w.Geregelt) {a : Nat} {tick : GenTick} {burst : Option Nat} {abstand : ℚ}
    (there : w.arbeiter[a]? = some (.eingefuegt tick stand ziel burst abstand)) :
    (w.speichere a tick stand ziel burst abstand).Geregelt := by
  obtain ⟨jetzt, rateLimit, all, erlaubt⟩ := geregelt.weiss a _ there
  have spaeter : Spaeter w (w.speichere a tick stand ziel burst abstand) := ⟨List.prefix_append _ _, rfl, rfl, le_refl _⟩
  -- No other worker holds a row, so none has counted on there being no more targets.
  have andere : ∀ (b : Nat) p, a ≠ b → w.arbeiter[b]? = some p → haelt p = false := by
    intro b p other found
    by_contra holds
    exact other (geregelt.einer a b _ p there found rfl (Bool.eq_true_of_not_eq_false holds))
  refine ⟨geregelt.begrenzt.speichere erlaubt all rfl rfl rfl rfl, fun b p found => ?_, fun b c p q isP isQ pHolds qHolds => ?_⟩
  · rcases weiss_set found with ⟨-, rfl⟩ | ⟨other, old⟩
    · exact ⟨jetzt, rateLimit⟩
    · exact (geregelt.weiss b p old).spaeter spaeter (Or.inr (andere b p other old))
  · rcases weiss_set isP with ⟨-, rfl⟩ | ⟨-, oldP⟩
    · cases pHolds
    · rcases weiss_set isQ with ⟨-, rfl⟩ | ⟨-, oldQ⟩
      · cases qHolds
      · exact geregelt.einer b c p q oldP oldQ pHolds qHolds

theorem Geregelt.step (geregelt : w.Geregelt) (a : GenAktion) : (w.step a).Geregelt := by
  cases a with
  | warte dauer =>
    have later : w.uhr ≤ w.uhr + (dauer : Int) := le_add_of_nonneg_right (Int.natCast_nonneg dauer)
    obtain ⟨nummern, anzahl, rate⟩ := geregelt.begrenzt
    exact geregelt.spaeter ⟨List.prefix_refl _, rfl, rfl, later⟩ ⟨nummern, anzahl, rate⟩ rfl rfl
  | beginne arbeiter jetzt =>
    simp only [Betrieb.step]
    split
    · next ok => exact geregelt.setze arbeiter ⟨ok.2.1, geregelt.gelesen⟩ rfl
    · exact geregelt
  | pruefe arbeiter =>
    simp only [Betrieb.step]
    split
    · next jetzt stand found => exact geregelt.pruefe (geregelt.weiss _ _ found)
    · exact geregelt
  | ziehe arbeiter ziehung =>
    simp only [Betrieb.step]
    split
    · next tick stand found => exact geregelt.ziehe (geregelt.weiss _ _ found)
    · exact geregelt
  | fuegeEin arbeiter =>
    simp only [Betrieb.step]
    split
    · next tick stand ziel burst abstand found => exact geregelt.fuegeEin (geregelt.weiss _ _ found)
    · exact geregelt
  | speichere arbeiter =>
    simp only [Betrieb.step]
    split
    · next tick stand ziel burst abstand found => exact geregelt.speichere found
    · exact geregelt
  | lies arbeiter =>
    simp only [Betrieb.step]
    split
    · next tick found =>
      obtain ⟨jetzt, rateLimit⟩ := geregelt.weiss _ _ found
      split
      · exact geregelt.frei arbeiter
      · exact geregelt.setze arbeiter ⟨jetzt, rateLimit, geregelt.gelesen⟩ rfl
    · exact geregelt
  | brichAb arbeiter => exact geregelt.frei arbeiter
  | steuere gelesen regie =>
    simp only [Betrieb.step]
    split
    · next werte ok => exact geregelt.setzeRun (regie_haelt ok)
    · exact geregelt

theorem Geregelt.start (run : GslRun) (maxStellen : Nat) (maxLaufzeitS : Int) (lageId rateLimit arbeiter : Nat) (jetzt : Zeit) :
    (start run maxStellen maxLaufzeitS lageId rateLimit arbeiter jetzt).Geregelt := by
  have idle : ∀ (a : Nat) p, (List.replicate arbeiter GenPhase.frei)[a]? = some p → p = .frei := fun a p found =>
    List.eq_of_mem_replicate (List.mem_of_getElem? found)
  refine ⟨⟨rfl, fun m _ => Nat.zero_le m, fun vor ziel nach split => by simp [Betrieb.start] at split⟩, fun a p found => ?_,
    fun a b p q isP _ holds => ?_⟩
  · rw [idle a p found]
    trivial
  · rw [idle a p isP] at holds
    cases holds

theorem step_grenzen (w : Betrieb) (a : GenAktion) :
    (w.step a).run.maxStellen = w.run.maxStellen ∧ (w.step a).rateLimit = w.rateLimit := by
  cases a with
  | warte | brichAb => exact ⟨rfl, rfl⟩
  | beginne =>
    simp only [Betrieb.step]
    split <;> exact ⟨rfl, rfl⟩
  | pruefe arbeiter =>
    simp only [Betrieb.step, Betrieb.pruefe]
    split
    · split_ifs <;> exact ⟨rfl, rfl⟩
    · exact ⟨rfl, rfl⟩
  | ziehe arbeiter ziehung =>
    simp only [Betrieb.step, Betrieb.ziehe]
    split
    · split_ifs
      · exact ⟨rfl, rfl⟩
      · exact ⟨rfl, rfl⟩
      · exact ⟨rfl, rfl⟩
      · cases ziehung <;> exact ⟨rfl, rfl⟩
    · exact ⟨rfl, rfl⟩
  | fuegeEin arbeiter =>
    simp only [Betrieb.step, Betrieb.fuegeEin]
    split
    · split_ifs <;> exact ⟨rfl, rfl⟩
    · exact ⟨rfl, rfl⟩
  | speichere arbeiter =>
    simp only [Betrieb.step]
    split <;> exact ⟨rfl, rfl⟩
  | lies arbeiter =>
    simp only [Betrieb.step]
    split
    · split <;> exact ⟨rfl, rfl⟩
    · exact ⟨rfl, rfl⟩
  | steuere gelesen regie =>
    simp only [Betrieb.step]
    split
    · next werte ok => exact ⟨(regie_haelt ok w.run).2, rfl⟩
    · exact ⟨rfl, rfl⟩

end Betrieb

/-- Whatever the ticks of the workers and the control do in whatever order, the
targets of a run stay numbered, and within its limit and the rate. -/
theorem generator_begrenzt (run : GslRun) (maxStellen : Nat) (maxLaufzeitS : Int) (lageId rateLimit arbeiter : Nat)
    (jetzt : Zeit) (aktionen : List GenAktion) :
    let w := Transition.run Betrieb.step (.start run maxStellen maxLaufzeitS lageId rateLimit arbeiter jetzt) aktionen
    w.Begrenzt ∧ w.run.maxStellen = some maxStellen ∧ w.rateLimit = rateLimit := by
  intro w
  have begun : (Betrieb.start run maxStellen maxLaufzeitS lageId rateLimit arbeiter jetzt).Geregelt := Betrieb.Geregelt.start ..
  refine ⟨(run_invariant Betrieb.Geregelt (fun _ a geregelt => geregelt.step a) begun aktionen).begrenzt, ?_⟩
  refine run_invariant (fun w : Betrieb => w.run.maxStellen = some maxStellen ∧ w.rateLimit = rateLimit)
    (fun w a limits => ?_) ⟨rfl, rfl⟩ aktionen
  obtain ⟨sameMax, sameRate⟩ := w.step_grenzen a
  exact ⟨sameMax.trans limits.1, sameRate.trans limits.2⟩

/-- Two ticks that have read the same: the second finds the number taken. -/
example : (Transition.run Betrieb.step (.start { id := 1, status := .bereit } 60 7200 3 6 2 0)
    [.beginne 0 0, .beginne 1 0, .pruefe 0, .pruefe 1, .ziehe 0 (.stelle none 30), .ziehe 1 (.stelle none 40),
      .fuegeEin 0, .fuegeEin 1, .speichere 0, .fuegeEin 1]).arbeiter =
    [.gespeichert { jetzt := 0, rateLimit := 6, runden := 4 }, .frei] := by decide +kernel

end Einsatzcockpit.Planspiel
