import Einsatzcockpit.Notify.Sync

namespace Einsatzcockpit.Notify

/-- `_faellig` -/
def faellig (now : Zeit) (zeile : BreathingZustellung) : Bool :=
  (zeile.status == .pending && zeile.naechsterVersuchAt.any (· ≤ now)) ||
    (zeile.status == .claimed && zeile.leaseBis.any (· ≤ now))

def beansprucht (now : Zeit) (zeile : BreathingZustellung) : BreathingZustellung :=
  { zeile with status := .claimed, leaseBis := some (now + minuten 2) }

/-- What a transaction reads beside the row; `smsAn` is the switch of the organisation. -/
structure Lage where
  warnung : Option BreathingWarnung
  incident : Option Incident
  troop : Option Nat
  user : Option User
  smsAn : Bool

def sperrgrund (lage : Lage) (zeile : BreathingZustellung) : Option String :=
  if lage.warnung.all (·.erledigtAt.isSome) then some "erledigt"
  else match lage.incident.filter (·.active) with
  | none => some "Einsatz nicht aktiv"
  | some incident =>
    match incident.primaryOrgId with
    | none => some "keine Organisation zugeordnet"
    | some orgId =>
      match lage.user.filter fun user => user.active && user.orgId == some orgId && lage.troop.isSome with
      | none => some "Empfaenger nicht aktiv oder fremde Organisation"
      | some user =>
        match zeile.kanal with
        | .push => none
        | .sms =>
          if incident.isExercise then some "Übung"
          else if !lage.smsAn then some "SMS deaktiviert"
          else if user.phone.all (· = "") then some "keine Telefonnummer"
          else none

/-- `_beende_zustellung_db`: the row with the outcome of its sending. -/
def beendet (now : Zeit) (fehlerklasse : Option String) (zeile : BreathingZustellung) : BreathingZustellung :=
  match fehlerklasse with
  | none => { zeile with leaseBis := none, status := .sent, gesendetAt := some now, fehler := none }
  | some klasse =>
    let zeile := { zeile with
      leaseBis := none
      versuche := zeile.versuche + 1
      fehler := some (klasse ++ ": Versand fehlgeschlagen") }
    if zeile.versuche < 4 then
      { zeile with
        status := .pending
        naechsterVersuchAt := some (now + sekunden (30 * 2 ^ (zeile.versuche - 1))) }
    else { zeile with status := .failed }

def spalte {β : Type} [DecidableEq β] (gelesen neu jetzt : β) : β :=
  if neu = gelesen then jetzt else neu

/-- The row after a flush; the UPDATE names the primary key and nothing else. -/
def BreathingZustellung.flush (gelesen neu zeile : BreathingZustellung) : BreathingZustellung :=
  { zeile with
    status := spalte gelesen.status neu.status zeile.status
    versuche := spalte gelesen.versuche neu.versuche zeile.versuche
    naechsterVersuchAt := spalte gelesen.naechsterVersuchAt neu.naechsterVersuchAt zeile.naechsterVersuchAt
    leaseBis := spalte gelesen.leaseBis neu.leaseBis zeile.leaseBis
    fehler := spalte gelesen.fehler neu.fehler zeile.fehler
    gesendetAt := spalte gelesen.gesendetAt neu.gesendetAt zeile.gesendetAt }

/-- Where a worker stands with a row: due, claimed, read by `_bereite_zustellung_sync`,
with the SMS under way, read by `_beende_zustellung_sync`, or done. -/
inductive Phase where
  | faellig
  | beansprucht
  | gelesen (zeile : BreathingZustellung)
  | versand
  | quittung (zeile : BreathingZustellung) (fehlerklasse : Option String)
  | fertig

/-- The work on one row in one call of `liefere_faellige`, which reads the clock once. -/
structure Auftrag where
  zeileId : Nat
  now : Zeit
  phase : Phase := .faellig

/-- The rows, the work under way, and which work claimed which row, newest first. -/
structure World where
  zeilen : List BreathingZustellung := []
  auftraege : List Auftrag := []
  ansprueche : List (Nat × Nat) := []

namespace World

variable (w : World)

def zeile? (id : Nat) : Option BreathingZustellung :=
  w.zeilen.find? fun zeile => zeile.id == id

def inhaber (id : Nat) : Option Nat :=
  (w.ansprueche.find? fun anspruch => anspruch.1 == id).map (·.2)

def schreibe (id : Nat) (f : BreathingZustellung → BreathingZustellung) : World :=
  { w with zeilen := Relational.update (·.id == id) f w.zeilen }

def setze (n : Nat) (auftrag : Auftrag) (phase : Phase) : World :=
  { w with auftraege := w.auftraege.set n { auftrag with phase := phase } }

end World

structure Umstand where
  lage : Lage
  fehlerklasse : Option String

/-- The row that the next step of the work writes, when it completes the row. -/
def abschluss (umstand : Umstand) (auftrag : Auftrag) : Option (BreathingZustellung × BreathingZustellung) :=
  match auftrag.phase with
  | .gelesen zeile =>
    match sperrgrund umstand.lage zeile with
    | some grund => some (zeile, zeile.unterdrueckt grund)
    | none =>
      match zeile.kanal with
      | .push => some (zeile, beendet auftrag.now umstand.fehlerklasse zeile)
      | .sms => none
  | .quittung zeile fehlerklasse => some (zeile, beendet auftrag.now fehlerklasse zeile)
  | _ => none

/-- The next step of the work `n`. -/
def weiter (n : Nat) (umstand : Umstand) (auftrag : Auftrag) (w : World) : World :=
  match auftrag.phase with
  | .faellig =>
    if w.zeilen.any fun zeile => zeile.id == auftrag.zeileId && faellig auftrag.now zeile then
      { (({ w with
          zeilen := Relational.update (fun zeile => zeile.id == auftrag.zeileId && faellig auftrag.now zeile)
            (beansprucht auftrag.now) w.zeilen } : World).setze n auftrag .beansprucht) with
        ansprueche := (auftrag.zeileId, n) :: w.ansprueche }
    else w.setze n auftrag .fertig
  | .beansprucht =>
    match w.zeile? auftrag.zeileId with
    | none => w.setze n auftrag .fertig
    | some zeile => w.setze n auftrag (.gelesen zeile)
  | .versand =>
    match w.zeile? auftrag.zeileId with
    | none => w.setze n auftrag .fertig
    | some zeile => w.setze n auftrag (.quittung zeile umstand.fehlerklasse)
  | .gelesen _ | .quittung _ _ =>
    match abschluss umstand auftrag with
    | some (gelesen, neu) => (w.schreibe auftrag.zeileId (BreathingZustellung.flush gelesen neu)).setze n auftrag .fertig
    | none => w.setze n auftrag .versand
  | .fertig => w

/-- A row is planned, a worker takes a row up, goes on with it, or dies. -/
inductive Schritt where
  | plane (zeile : BreathingZustellung)
  | starte (zeileId : Nat) (now : Zeit)
  | weiter (n : Nat) (umstand : Umstand)
  | stirb (n : Nat)

def schritt (w : World) : Schritt → World
  | .plane zeile => { w with zeilen := w.zeilen ++ [{ zeile with id := w.zeilen.length + 1 }] }
  | .starte zeileId now => { w with auftraege := w.auftraege ++ [{ zeileId := zeileId, now := now }] }
  | .weiter n umstand =>
    match w.auftraege[n]? with
    | none => w
    | some auftrag => weiter n umstand auftrag w
  | .stirb n =>
    match w.auftraege[n]? with
    | none => w
    | some auftrag => w.setze n auftrag .fertig

abbrev lauf : World → List Schritt → World := Transition.run schritt

end Einsatzcockpit.Notify
