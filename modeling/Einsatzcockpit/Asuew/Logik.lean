import Mathlib.Data.Rat.Defs
import Mathlib.Algebra.Order.Ring.Int
import Mathlib.Data.List.Sort

namespace Einsatzcockpit.Asuew

def doppelt (n : Int) : Int :=
  if n.natAbs ≤ 2 ^ 53 then n
  else
    let einheit := 2 ^ (Nat.log2 n.natAbs - 52)
    let q := n.natAbs / einheit
    let rest := 2 * (n.natAbs % einheit)
    let q := if einheit < rest ∨ rest = einheit ∧ q % 2 = 1 then q + 1 else q
    n.sign * (q * einheit : Nat)

structure Kontrolle where
  stufe : String
  art : String
  erledigtAtMs : Int
  niedrigsterDruck : Option ℚ

/-- A troop as the device has parsed it; times are server milliseconds. -/
structure Trupp where
  id : Int
  name : String
  status : String
  entryAtMs : Option Int := none
  notfallAtMs : Option Int := none
  funkVerlorenAtMs : Option Int := none
  lastPressureAtMs : Option Int := none
  oneThirdSeconds : Option Int := none
  twoThirdSeconds : Option Int := none
  maxSeconds : Option Int := none
  maxTimeAcked : Bool := false
  serverWarnings : List String := []
  kontrollen : List Kontrolle := []

structure Zustand where
  troops : List Trupp

structure Ereignis where
  troopId : Int
  kind : String
  stufe : Option String := none
  ackKind : Option String := none
  atServerMs : Int
  deriving DecidableEq

def stages : List String := ["one_third", "two_third", "frei"]

def ackKinds : List String := ["max_time", "withdraw"]

def severity : List String :=
  ["notfall", "withdraw", "funk_verloren", "max_exceeded", "two_third_due", "one_third_due"]

def isValidLocalEvent (e : Ereignis) : Bool :=
  e.troopId > 0 && e.atServerMs > 0 && ["kontrolle", "druck", "ack"].contains e.kind &&
    e.stufe.all stages.contains && e.ackKind.all ackKinds.contains &&
    (e.kind != "kontrolle" || e.stufe.isSome) && (e.kind != "ack" || e.ackKind.isSome)

/-- `entryAtMs + seconds * 1000` -/
def fristMs (entryAtMs seconds : Int) : Int :=
  doppelt (entryAtMs + doppelt (seconds * 1000))

inductive Angabe where
  | fehlt
  | zahl (n : Int)
  | keineZahl

def geerbt : List String :=
  ["constructor", "__defineGetter__", "__defineSetter__", "hasOwnProperty", "__lookupGetter__", "__lookupSetter__",
    "isPrototypeOf", "propertyIsEnumerable", "toString", "valueOf", "__proto__", "toLocaleString"]

/-- `{ one_third_due: t.oneThirdSeconds, two_third_due: t.twoThirdSeconds }[w]` -/
def sekundenZu (t : Trupp) (w : String) : Angabe :=
  if w = "one_third_due" then t.oneThirdSeconds.elim .fehlt .zahl
  else if w = "two_third_due" then t.twoThirdSeconds.elim .fehlt .zahl
  else if w ∈ geerbt then .keineZahl
  else .fehlt

/-- The warnings that a pressure report leaves; no time is before `NaN`. -/
def bleibt (t : Trupp) (lastPressureAtMs : Int) (w : String) : Bool :=
  match t.entryAtMs, sekundenZu t w with
  | none, _ => true
  | some _, .fehlt => true
  | some _, .keineZahl => false
  | some entryAtMs, .zahl seconds => decide (lastPressureAtMs < fristMs entryAtMs seconds)

/-- `{ one_third: 'one_third_due', two_third: 'two_third_due' }[stufe]` -/
def warnungZu (stufe : String) : Option String :=
  if stufe = "one_third" then some "one_third_due"
  else if stufe = "two_third" then some "two_third_due"
  else none

def Trupp.kontrolliert (t : Trupp) (stufe : String) : Bool :=
  t.kontrollen.any fun k => k.stufe == stufe && k.art == "funk"

def Ereignis.eigen (e : Ereignis) (t : Trupp) : Bool :=
  e.troopId == t.id && t.entryAtMs.all (· ≤ e.atServerMs)

def kontrolliere (t : Trupp) (stufe : String) (atServerMs : Int) : Trupp :=
  { t with
    kontrollen :=
      if t.kontrolliert stufe then t.kontrollen
      else t.kontrollen ++ [{ stufe, art := "funk", erledigtAtMs := atServerMs, niedrigsterDruck := none }]
    serverWarnings := t.serverWarnings.filter fun w => warnungZu stufe != some w }

def meldeDruck (t : Trupp) (atServerMs : Int) : Trupp :=
  let last := max (t.lastPressureAtMs.getD atServerMs) atServerMs
  { t with lastPressureAtMs := some last, serverWarnings := t.serverWarnings.filter (bleibt t last) }

def quittiere (t : Trupp) (ackKind : String) : Trupp :=
  if ackKind = "max_time" then
    { t with maxTimeAcked := true, serverWarnings := t.serverWarnings.filter (· != "max_exceeded") }
  else if ackKind = "withdraw" then { t with serverWarnings := t.serverWarnings.filter (· != "withdraw") }
  else t

def wendeAn (t : Trupp) (e : Ereignis) : Trupp :=
  if !e.eigen t then t
  else
    match e.kind with
    | "kontrolle" =>
      match e.stufe with
      | some stufe => if stufe ∈ stages then kontrolliere t stufe e.atServerMs else t
      | none => t
    | "druck" => meldeDruck t e.atServerMs
    | "ack" =>
      match e.ackKind with
      | some ackKind => quittiere t ackKind
      | none => t
    | _ => t

def applyLocalEvents (state : Zustand) (events : List Ereignis) : Zustand :=
  if events = [] then state else { state with troops := state.troops.map fun t => events.foldl wendeAn t }

def isActive (t : Trupp) : Bool :=
  t.entryAtMs.isSome && ["im_einsatz", "rueckzug"].contains t.status

structure Frist where
  troopId : Int
  kind : String
  atServerMs : Int

def stufenFrist (t : Trupp) (entryAtMs : Int) (seconds : Option Int) (kind stufe : String) : List Frist :=
  match seconds with
  | none => []
  | some seconds =>
    let at_ := fristMs entryAtMs seconds
    if !t.kontrolliert stufe && t.lastPressureAtMs.all (· < at_) then [⟨t.id, kind, at_⟩] else []

def pendingDeadlines (t : Trupp) : List Frist :=
  match t.entryAtMs with
  | none => []
  | some entryAtMs =>
    if !isActive t then []
    else
      let maxFrist := match t.maxSeconds with
        | none => []
        | some seconds => if t.maxTimeAcked then [] else [⟨t.id, "max_exceeded", fristMs entryAtMs seconds⟩]
      maxFrist ++ stufenFrist t entryAtMs t.twoThirdSeconds "two_third_due" "two_third" ++
        stufenFrist t entryAtMs t.oneThirdSeconds "one_third_due" "one_third"

def timeWarnings (t : Trupp) (now : Int) : List String :=
  ((pendingDeadlines t).filter fun frist => frist.atServerMs ≤ now).map (·.kind)

/-- An alarm; its key is the troop, the kind and the deployment. -/
structure Alarm where
  troopId : Int
  troopName : String
  kind : String
  key : Int × String × Int
  deriving DecidableEq

def serverKinds (t : Trupp) : List String :=
  t.serverWarnings.filter fun k =>
    severity.contains k &&
      (isActive t || (k == "notfall" && t.notfallAtMs.isSome) ||
        (k == "funk_verloren" && t.funkVerlorenAtMs.isSome))

def truppAlarme (now : Int) (t : Trupp) : List Alarm :=
  (serverKinds t ++ timeWarnings t now).map fun kind => ⟨t.id, t.name, kind, (t.id, kind, t.entryAtMs.getD 0)⟩

def jeSchluessel (alarms : List Alarm) : List Alarm :=
  alarms.foldl (fun seen alarm => if seen.any (·.key == alarm.key) then seen else seen ++ [alarm]) []

/-- `severity.indexOf(a.kind) - severity.indexOf(b.kind) || a.troopId - b.troopId` is not positive. -/
def vorrangig (a b : Alarm) : Bool :=
  let i := severity.idxOf a.kind
  let j := severity.idxOf b.kind
  decide (i < j ∨ i = j ∧ a.troopId ≤ b.troopId)

def activeAlarms (state : Zustand) (now : Int) : List Alarm :=
  (jeSchluessel (state.troops.flatMap (truppAlarme now))).insertionSort (vorrangig · ·)

end Einsatzcockpit.Asuew
