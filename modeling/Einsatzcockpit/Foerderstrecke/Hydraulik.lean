import Mathlib.Data.List.Sort
import Mathlib.Data.Rat.Floor

/-! The hydraulics of a chain of pumps, `foerderstrecke_service.py`. Numbers are exact, and the
barometric suction height is given. -/

namespace Einsatzcockpit.Foerderstrecke

section Rechnen

/-- `int(round(x))`, halves to the even neighbour. -/
def runde (x : ℚ) : Int :=
  if x - ⌊x⌋ < 1 / 2 then ⌊x⌋
  else if 1 / 2 < x - ⌊x⌋ then ⌊x⌋ + 1
  else if ⌊x⌋ % 2 = 0 then ⌊x⌋ else ⌊x⌋ + 1

/-- `round(x, stellen)` -/
def rundeAuf (stellen : Nat) (x : ℚ) : ℚ := runde (x * 10 ^ stellen) / 10 ^ stellen

def meterProBar : ℚ := 10
def segmentM : ℚ := 25

theorem segmentM_pos : 0 < segmentM := by decide

/-- `armaturen_zuschlag: float = 0.05` -/
def standardZuschlag : ℚ≥0 := 1 / 20
def pufferMinEinlaufBar : ℚ := 1 / 5
def dbvZuschlagBar : ℚ := 1 / 2

def reibungsverlustBar (k : ℚ≥0) (qLMin laengeM : ℚ) (nParallel : Int) (armaturenZuschlag : ℚ≥0) : ℚ :=
  let n : Int := max 1 nParallel
  let qLeitung := qLMin / n
  let delta := k * (qLeitung / 1000) ^ 2 * (laengeM / 100)
  delta * (1 + armaturenZuschlag)

def hoehenverlustBar (deltaHoeheM : ℚ) : ℚ := deltaHoeheM / meterProBar

def interpoliereHoehe (kennlinie : List (ℚ × ℚ)) (qLMin : ℚ) : Option ℚ :=
  let pkt := kennlinie.insertionSort fun a b => a.1 ≤ b.1
  match pkt.head?, pkt.getLast? with
  | some erster, some letzter =>
    if qLMin ≤ erster.1 then some erster.2
    else if letzter.1 ≤ qLMin then some letzter.2
    else match (pkt.zip pkt.tail).find? fun (a, b) => a.1 ≤ qLMin ∧ qLMin ≤ b.1 with
      | some ((q1, h1), (q2, h2)) => some (if q2 = q1 then h1 else h1 + (qLMin - q1) / (q2 - q1) * (h2 - h1))
      | none => some letzter.2
  | _, _ => none

def kennlinieMaxQ (kennlinie : List (ℚ × ℚ)) : ℚ := (kennlinie.map (·.1)).max?.getD 0

end Rechnen

section Strecke

structure Ansaugpunkt where
  barometrischeSaughoeheM : ℚ
  geodaetischeSaughoeheM : ℚ := 3
  saugK : ℚ≥0
  saugNParallel : Int := 1
  saugleitungLaengeM : ℚ≥0 := 0
  maxAnsaughoeheM : ℚ := 15 / 2
  npshrM : ℚ := 0
  saugScheitelM : ℚ := 0
  eingangsdruckBar : Option ℚ := none

def Ansaugpunkt.istDruckspeisung (ansaug : Ansaugpunkt) : Bool := ansaug.eingangsdruckBar.isSome

def Ansaugpunkt.effektiveSaughoeheM (ansaug : Ansaugpunkt) : ℚ := max ansaug.geodaetischeSaughoeheM ansaug.saugScheitelM

def verfuegbareSaughoeheM (ansaug : Ansaugpunkt) (saughoehe qLMin : ℚ) : ℚ :=
  let reibBar := reibungsverlustBar ansaug.saugK qLMin ansaug.saugleitungLaengeM ansaug.saugNParallel 0
  ansaug.barometrischeSaughoeheM - saughoehe - reibBar * meterProBar - ansaug.npshrM

structure Abschnitt where
  schlauchK : ℚ≥0
  laengeM : ℚ
  nParallel : Int := 1
  deltaHoeheM : ℚ := 0
  maxBetriebsdruckBar : Option ℚ := none
  hoehenStuetzpunkte : Option (List ℚ) := none

inductive Typ where
  | quellpumpe
  | verstaerker
  | puffer
  | uebergabe
  deriving DecidableEq

structure PumpenStation where
  kennlinie : List (ℚ × ℚ)
  typ : Typ := .verstaerker
  maxAusgangsdruckBar : Option ℚ := none
  minEingangsdruckBar : ℚ := 3 / 2
  name : String := ""
  abschnittDanach : Option Abschnitt := none

/-- `_pumpe_p_aus` -/
def pumpePAus (kennlinie : List (ℚ × ℚ)) (maxAusgangsdruckBar : Option ℚ) (qLMin vordruckBar : ℚ) : ℚ :=
  let p := vordruckBar + (interpoliereHoehe kennlinie qLMin).getD 0 / meterProBar
  match maxAusgangsdruckBar with
  | none => p
  | some grenze => min p grenze

def Abschnitt.laenge (abschnitt : Abschnitt) : ℚ := max abschnitt.laengeM 0

def Abschnitt.nSeg (abschnitt : Abschnitt) : Nat :=
  if 0 < abschnitt.laenge then (max 1 (runde (abschnitt.laenge / segmentM))).toNat else 0

def Abschnitt.hoeheBei (abschnitt : Abschnitt) (frac : ℚ) : ℚ :=
  match abschnitt.hoehenStuetzpunkte with
  | some (erster :: rest) => (erster :: rest).getD (min rest.length (runde (frac * rest.length)).toNat) 0
  | _ => abschnitt.deltaHoeheM * frac

def Abschnitt.druckBei (abschnitt : Abschnitt) (pStartBar qLMin : ℚ) (armaturenZuschlag : ℚ≥0) (frac : ℚ) : ℚ :=
  let reibGesamt := reibungsverlustBar abschnitt.schlauchK qLMin abschnitt.laenge abschnitt.nParallel armaturenZuschlag
  pStartBar - reibGesamt * frac - hoehenverlustBar (abschnitt.hoeheBei frac)

/-- `_abschnitt_profil` -/
def abschnittProfil (pStartBar : ℚ) (abschnitt : Abschnitt) (qLMin s0M : ℚ) (armaturenZuschlag : ℚ≥0) : List (ℚ × ℚ) :=
  (s0M, pStartBar) :: (List.range abschnitt.nSeg).map fun i =>
    let frac : ℚ := (i + 1 : Nat) / abschnitt.nSeg
    (s0M + frac * abschnitt.laenge, abschnitt.druckBei pStartBar qLMin armaturenZuschlag frac)

end Strecke

section Auswertung

inductive Warnung where
  | saughoehe (saughoehe grenze : ℚ) (scheitel : Option ℚ)
  | reserve (reserve qLMin : ℚ)
  | betriebsdruck (p grenze s : ℚ)
  | hochpunkt (s p grenze : ℚ)
  | auslass (p ziel : ℚ)
  | eingang (station : Nat) (p grenze : ℚ)
  | keineStation
  | engpass (index : Nat) (name : String) (qLMin : ℚ)

structure Stationswerte where
  index : Nat
  name : String
  typ : Typ
  pAusBar : ℚ
  pEinBar : Option ℚ
  dbvBar : Option ℚ := none
  pAuslassBar : Option ℚ := none
  pEinFolgeBar : Option ℚ := none

structure Parameter where
  zielDruckBar : ℚ := 0
  armaturenZuschlag : ℚ≥0
  hochpunktMinBar : ℚ := 1 / 2

structure Auswertung where
  machbar : Bool := true
  druckprofil : List (ℚ × ℚ) := []
  stationswerte : List Stationswerte := []
  warnungen : List Warnung := []

/-- What the loop over the stations carries on: the evaluation, the place and the inlet
pressure of the next station. -/
structure Verlauf extends Auswertung where
  s : ℚ := 0
  pEinAktuell : Option ℚ

def Auswertung.melde (a : Auswertung) (meldungen : List Warnung) : Auswertung :=
  { a with machbar := a.machbar && meldungen.isEmpty, warnungen := a.warnungen ++ meldungen }

def saugMeldungen (ansaug : Ansaugpunkt) (qLMin : ℚ) : List Warnung :=
  if ansaug.istDruckspeisung then []
  else
    let saughoehe := ansaug.effektiveSaughoeheM
    let reserve := verfuegbareSaughoeheM ansaug saughoehe qLMin
    (if ansaug.maxAnsaughoeheM < saughoehe then [.saughoehe saughoehe ansaug.maxAnsaughoeheM
        (if ansaug.saugScheitelM ≠ 0 ∧ ansaug.geodaetischeSaughoeheM < ansaug.saugScheitelM then some ansaug.saugScheitelM else none)]
      else []) ++
    if reserve < 0 then [.reserve reserve qLMin] else []

/-- The limits along a section: the operating pressure, and the pressure between its ends. -/
def abschnittMeldungen (abschnitt : Abschnitt) (hochpunktMinBar : ℚ) (teil : List (ℚ × ℚ)) : List Warnung :=
  (match abschnitt.maxBetriebsdruckBar with
    | none => []
    | some grenze => ((teil.find? fun t => grenze < t.2).map fun t => .betriebsdruck t.2 grenze t.1).toList) ++
  ((teil.tail.dropLast.find? fun t => t.2 < hochpunktMinBar).map fun t => .hochpunkt t.1 t.2 hochpunktMinBar).toList

def PumpenStation.minEin (station : PumpenStation) : ℚ :=
  if station.typ = .puffer ∨ station.typ = .uebergabe then pufferMinEinlaufBar else station.minEingangsdruckBar

def endeMeldungen (zielDruckBar : ℚ) (i : Nat) (folge : Option PumpenStation) (pEnde : ℚ) : List Warnung :=
  match folge with
  | none => if pEnde < zielDruckBar then [.auslass pEnde zielDruckBar] else []
  | some folge => if pEnde < folge.minEin then [.eingang (i + 2) pEnde folge.minEin] else []

def vordruck (ansaug : Ansaugpunkt) (i : Nat) (station : PumpenStation) (pEinAktuell : Option ℚ) : ℚ :=
  if i = 0 then ansaug.eingangsdruckBar.getD 0
  else if station.typ = .verstaerker then pEinAktuell.getD 0
  else 0

def schritt (ansaug : Ansaugpunkt) (param : Parameter) (qLMin : ℚ) (i : Nat) (station : PumpenStation) (folge : Option PumpenStation)
    (v : Verlauf) : Verlauf :=
  let pAus := pumpePAus station.kennlinie station.maxAusgangsdruckBar qLMin (vordruck ansaug i station v.pEinAktuell)
  let werte : Stationswerte :=
    { index := i, name := station.name, typ := station.typ, pAusBar := rundeAuf 2 pAus, pEinBar := v.pEinAktuell.map (rundeAuf 2) }
  let druckprofil := if v.druckprofil = [] then [(v.s, pAus)] else v.druckprofil
  match station.abschnittDanach with
  | none => { v with druckprofil, stationswerte := v.stationswerte ++ [werte] }
  | some abschnitt =>
    let teil := abschnittProfil pAus abschnitt qLMin v.s param.armaturenZuschlag
    let ende := teil.getLastD (v.s, pAus)
    let meldungen := abschnittMeldungen abschnitt param.hochpunktMinBar teil ++ endeMeldungen param.zielDruckBar i folge ende.2
    let werte := match folge with
      | none => { werte with pAuslassBar := some (rundeAuf 2 ende.2) }
      | some _ => { werte with pEinFolgeBar := some (rundeAuf 2 ende.2), dbvBar := some (rundeAuf 2 (ende.2 + dbvZuschlagBar)) }
    { v.toAuswertung.melde meldungen with
      druckprofil := druckprofil ++ teil.tail
      stationswerte := v.stationswerte ++ [werte]
      s := ende.1
      pEinAktuell := if folge.isSome then some ende.2 else v.pEinAktuell }

def verlauf (ansaug : Ansaugpunkt) (param : Parameter) (qLMin : ℚ) : Nat → List PumpenStation → Verlauf → Verlauf
  | _, [], v => v
  | i, station :: rest, v => verlauf ansaug param qLMin (i + 1) rest (schritt ansaug param qLMin i station rest.head? v)

/-- `_auswertung_bei_q` -/
def auswertungBeiQ (ansaug : Ansaugpunkt) (stationen : List PumpenStation) (param : Parameter) (qLMin : ℚ) : Auswertung :=
  (verlauf ansaug param qLMin 0 stationen
    { ({} : Auswertung).melde (saugMeldungen ansaug qLMin) with pEinAktuell := ansaug.eingangsdruckBar }).toAuswertung

def Auswertung.pAuslassBar (a : Auswertung) : ℚ := (a.druckprofil.getLast?.map (·.2)).getD 0

end Auswertung

end Einsatzcockpit.Foerderstrecke
