import Einsatzcockpit.Lib.Run
import Einsatzcockpit.Basis

namespace Einsatzcockpit.Dienst

inductive Zustand where
  | ok | teilweise | down | unknown | nichtKonfiguriert
  deriving DecidableEq

inductive Art where
  | stoerung | entwarnung
  deriving DecidableEq

structure DienstCheck where
  state : Zustand
  detail : String
  relevant : Bool
  alert : Bool := true
  deriving DecidableEq

structure DienstStatus where
  state : Zustand := .unknown
  since : Option Zeit := none
  downSince : Option Zeit := none
  lastOkAt : Option Zeit := none
  lastError : Option String := none
  failCycles : Nat := 0
  okCycles : Nat := 0
  outageNotifiedAt : Option Zeit := none
  lastRepeatAt : Option Zeit := none
  deriving DecidableEq

/-- The columns that the decision, the claim and the rollback share. -/
structure Spalten where
  downSince : Option Zeit
  outageNotifiedAt : Option Zeit
  lastRepeatAt : Option Zeit
  deriving DecidableEq

def DienstStatus.spalten (row : DienstStatus) : Spalten where
  downSince := row.downSince
  outageNotifiedAt := row.outageNotifiedAt
  lastRepeatAt := row.lastRepeatAt

structure OrgSettings where
  karenzMin : Nat
  wiederholungMin : Nat
  positiv : 1 ≤ wiederholungMin

variable (org : OrgSettings)

/-- What `_process_org_mit_db` notes before the decision. -/
def vermerke (check : DienstCheck) (row : DienstStatus) (now : Zeit) : DienstStatus :=
  let row := if row.state = check.state then row else { row with state := check.state, since := some now }
  match check.state with
  | .ok => { row with lastOkAt := some now, lastError := none }
  | .down | .teilweise => { row with lastError := some (clip 500 check.detail) }
  | .unknown | .nichtKonfiguriert => row

/-- `wiederholung_faellig` of `entscheide` -/
def wiederholungFaellig (check : DienstCheck) (row : DienstStatus) (now : Zeit) : Bool :=
  match row.outageNotifiedAt, row.lastRepeatAt with
  | none, _ => true
  | some _, some repeated => check.state == .down && decide (minuten org.wiederholungMin ≤ now - repeated)
  | some _, none => false

def entscheide (check : DienstCheck) (row : DienstStatus) (now : Zeit) : DienstStatus × Option Art :=
  if check.state = .nichtKonfiguriert then
    ({ row with downSince := none, outageNotifiedAt := none, lastRepeatAt := none, failCycles := 0, okCycles := 0, lastError := none },
      none)
  else if ¬ check.alert ∨ ¬ check.relevant ∨ check.state = .unknown then (row, none)
  else if check.state = .down ∨ check.state = .teilweise then
    let downSince := row.downSince.getD now
    let row := { row with downSince := some downSince, failCycles := row.failCycles + 1, okCycles := 0 }
    if minuten org.karenzMin ≤ now - downSince ∧ 2 ≤ row.failCycles ∧ wiederholungFaellig org check row now then
      (row, some .stoerung)
    else (row, none)
  else
    let row := { row with okCycles := row.okCycles + 1, failCycles := 0, downSince := none, lastRepeatAt := none }
    (row, if row.outageNotifiedAt.isSome then some .entwarnung else none)

def geschrieben {α : Type} [DecidableEq α] (gelesen neu aktuell : α) : α := if neu = gelesen then aktuell else neu

def DienstStatus.uebernimmt (aktuell gelesen neu : DienstStatus) : DienstStatus where
  state := geschrieben gelesen.state neu.state aktuell.state
  since := geschrieben gelesen.since neu.since aktuell.since
  downSince := geschrieben gelesen.downSince neu.downSince aktuell.downSince
  lastOkAt := geschrieben gelesen.lastOkAt neu.lastOkAt aktuell.lastOkAt
  lastError := geschrieben gelesen.lastError neu.lastError aktuell.lastError
  failCycles := geschrieben gelesen.failCycles neu.failCycles aktuell.failCycles
  okCycles := geschrieben gelesen.okCycles neu.okCycles aktuell.okCycles
  outageNotifiedAt := geschrieben gelesen.outageNotifiedAt neu.outageNotifiedAt aktuell.outageNotifiedAt
  lastRepeatAt := geschrieben gelesen.lastRepeatAt neu.lastRepeatAt aktuell.lastRepeatAt

/-- The condition of `claim_meldung` -/
def beanspruchbar (art : Art) (row : DienstStatus) (now : Zeit) : Bool :=
  match art with
  | .stoerung =>
    row.outageNotifiedAt.isNone || row.lastRepeatAt.any fun repeated => decide (repeated ≤ now - minuten org.wiederholungMin)
  | .entwarnung => row.outageNotifiedAt.isSome

/-- What `claim_meldung` writes -/
def beansprucht (art : Art) (row : DienstStatus) (now : Zeit) : DienstStatus :=
  match art with
  | .stoerung => { row with outageNotifiedAt := some now, lastRepeatAt := some now }
  | .entwarnung => { row with outageNotifiedAt := none }

/-- The condition of `rollback_claim` -/
def ruecknehmbar (art : Art) (row : DienstStatus) (now : Zeit) : Bool :=
  match art with
  | .stoerung => row.lastRepeatAt == some now
  | .entwarnung => row.outageNotifiedAt.isNone

/-- What `rollback_claim` writes -/
def zurueckgenommen (art : Art) (row : DienstStatus) (vorherOutage vorherRepeat : Option Zeit) : DienstStatus :=
  match art with
  | .stoerung => { row with outageNotifiedAt := vorherOutage, lastRepeatAt := vorherRepeat }
  | .entwarnung => { row with outageNotifiedAt := vorherOutage }

/-- Where a worker stands with the service. `spalten` are those that its decision
has left. -/
inductive Phase where
  | frei
  | begonnen (now : Zeit)
  | gelesen (check : DienstCheck) (now : Zeit) (row : DienstStatus)
  | entschieden (art : Art) (now : Zeit) (spalten : Spalten)
  | geladen (art : Art) (now : Zeit) (spalten : Spalten) (vorherOutage vorherRepeat : Option Zeit)
  | versendet (art : Art) (now : Zeit) (vorherOutage vorherRepeat : Option Zeit)
  deriving DecidableEq

def Phase.nach (now : Zeit) (spalten : Spalten) : Option Art → Phase
  | some art => .entschieden art now spalten
  | none => .frei

/-- A claimed message, with the columns that it was claimed on. -/
structure Meldung where
  art : Art
  zeit : Zeit
  spalten : Spalten

structure Welt where
  row : DienstStatus := {}
  uhr : Zeit := 0
  arbeiter : List Phase
  /-- The claims that stand, the latest one first: a claim that is taken back
  does not stand. -/
  meldungen : List Meldung := []

inductive Schritt where
  | warte (dauer : Nat)
  | beginne (arbeiter : Nat)
  | lies (arbeiter : Nat) (check : DienstCheck)
  | entscheide (arbeiter : Nat)
  | lade (arbeiter : Nat)
  | beanspruche (arbeiter : Nat) (ausgeschaltet : Bool)
  | versende (arbeiter : Nat) (ok : Bool)
  | absturz (arbeiter : Nat)

namespace Welt

def setze (w : Welt) (arbeiter : Nat) (phase : Phase) : Welt := { w with arbeiter := w.arbeiter.set arbeiter phase }

def entschieden (check : DienstCheck) (now : Zeit) (row : DienstStatus) : DienstStatus × Option Art :=
  Dienst.entscheide org check (vermerke check row now) now

def entscheide (w : Welt) (arbeiter : Nat) (check : DienstCheck) (now : Zeit) (row : DienstStatus) : Welt :=
  let decided := entschieden org check now row
  setze { w with row := w.row.uebernimmt row decided.1 } arbeiter (.nach now decided.1.spalten decided.2)

def beanspruche (w : Welt) (arbeiter : Nat) (art : Art) (now : Zeit) (vorherOutage vorherRepeat : Option Zeit) : Welt :=
  if beanspruchbar org art w.row now then
    { w with
      row := beansprucht art w.row now
      meldungen := { art, zeit := now, spalten := w.row.spalten } :: w.meldungen }.setze arbeiter
        (.versendet art now vorherOutage vorherRepeat)
  else w.setze arbeiter .frei

def nimmZurueck (w : Welt) (art : Art) (now : Zeit) (vorherOutage vorherRepeat : Option Zeit) : Welt :=
  if ruecknehmbar art w.row now then
    { w with row := zurueckgenommen art w.row vorherOutage vorherRepeat, meldungen := w.meldungen.tail }
  else w

end Welt

def schritt (w : Welt) : Schritt → Welt
  | .warte dauer => { w with uhr := w.uhr + dauer }
  | .beginne arbeiter =>
    match w.arbeiter[arbeiter]? with
    | some .frei => w.setze arbeiter (.begonnen w.uhr)
    | _ => w
  | .lies arbeiter check =>
    match w.arbeiter[arbeiter]? with
    | some (.begonnen now) => w.setze arbeiter (.gelesen check now w.row)
    | _ => w
  | .entscheide arbeiter =>
    match w.arbeiter[arbeiter]? with
    | some (.gelesen check now row) => w.entscheide org arbeiter check now row
    | _ => w
  | .lade arbeiter =>
    match w.arbeiter[arbeiter]? with
    | some (.entschieden art now spalten) =>
      w.setze arbeiter (.geladen art now spalten w.row.outageNotifiedAt w.row.lastRepeatAt)
    | _ => w
  | .beanspruche arbeiter ausgeschaltet =>
    match w.arbeiter[arbeiter]? with
    | some (.geladen art now _ vorherOutage vorherRepeat) =>
      if ausgeschaltet then w.setze arbeiter .frei else w.beanspruche org arbeiter art now vorherOutage vorherRepeat
    | _ => w
  | .versende arbeiter ok =>
    match w.arbeiter[arbeiter]? with
    | some (.versendet art now vorherOutage vorherRepeat) =>
      let w := w.setze arbeiter .frei
      if ok ∨ art = .entwarnung then w else w.nimmZurueck art now vorherOutage vorherRepeat
    | _ => w
  | .absturz arbeiter => w.setze arbeiter .frei

def start (arbeiter : Nat) : Welt := { arbeiter := List.replicate arbeiter .frei }

end Einsatzcockpit.Dienst
