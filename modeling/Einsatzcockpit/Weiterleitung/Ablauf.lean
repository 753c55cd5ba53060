import Einsatzcockpit.Lib.Run
import Einsatzcockpit.Lib.Keyed
import Einsatzcockpit.Basis

namespace Einsatzcockpit.Weiterleitung

open Relational

inductive Status where
  | wartend | inBearbeitung | gesendet | uebersprungen | fehler
  deriving DecidableEq

def maxVersuche : Nat := 3

/-- `CLAIM_LEASE` -/
def claimLease : Int := minuten 10

/-- A row of `mail_weiterleitung_log`. -/
structure MailWeiterleitungLog where
  id : Nat
  weiterleitungId : Nat
  resendEmailId : String
  status : Status
  fehlercode : Option String := none
  versuche : Nat := 0
  updatedAt : Zeit

def MailWeiterleitungLog.schluessel (row : MailWeiterleitungLog) : Nat × String :=
  (row.weiterleitungId, row.resendEmailId)

/-- `_log_row` -/
def logRow (regel : Nat) (emailId : String) (status : Status) (fehlercode : Option String) (jetzt : Zeit) (id : Nat) :
    MailWeiterleitungLog :=
  { id, weiterleitungId := regel, resendEmailId := emailId, status, fehlercode, updatedAt := jetzt }

/-- Where a worker stands in `verarbeite_faellige`: before the next entry of
its batch, or in `verarbeite_log`: it has read the entry, has begun an attempt,
has passed the limit, has a result. -/
inductive Phase where
  | stapel (rest : List Nat)
  | gelesen (id versuche : Nat) (rest : List Nat)
  | laeuft (id : Nat) (rest : List Nat)
  | geprueft (id : Nat) (rest : List Nat)
  | ergebnis (id : Nat) (status : Status) (fehlercode : Option String) (rest : List Nat)

def Phase.ids : Phase → List Nat
  | stapel rest => rest
  | gelesen id _ rest | laeuft id rest | geprueft id rest | ergebnis id _ _ rest => id :: rest

/-- The entry that is past the count of the limit and whose message may have
been accepted without showing it. -/
def Phase.sendet : Phase → Option Nat
  | geprueft id _ | ergebnis id .gesendet _ _ => some id
  | _ => none

structure Annahme where
  weiterleitungId : Nat
  resendEmailId : String
  zeit : Zeit
  deriving DecidableEq

structure Welt where
  zeilen : Keyed MailWeiterleitungLog.id := .empty
  uhr : Zeit := 0
  arbeiter : List Phase
  eingaenge : List (Option (Nat × String))
  angenommen : List Annahme := []
  begonnen : List (Nat × String) := []

structure Regel where
  maxProStunde : Nat
  positiv : 1 ≤ maxProStunde

inductive Schritt where
  | warte (dauer : Nat)
  | pruefe (eingang regel : Nat) (emailId : String)
  | fuegeEin (eingang : Nat) (bounce : Bool)
  | beanspruche (arbeiter : Nat) (logId : Option Nat) (gesperrt : List Nat)
  | lies (arbeiter : Nat)
  | beginne (arbeiter : Nat) (aktiv : Bool)
  | ueberspringe (arbeiter : Nat) (fehlercode : String)
  | zaehle (arbeiter : Nat)
  | sende (arbeiter : Nat)
  | scheitere (arbeiter : Nat)
  | melde (arbeiter : Nat)
  | absturz (arbeiter : Nat)

section Beanspruche

/-- `faellig` of `beanspruche` -/
def faellig (jetzt : Zeit) (wartezeit : Int) (row : MailWeiterleitungLog) : Bool :=
  row.status == .wartend && decide (row.updatedAt ≤ jetzt - wartezeit)

/-- `abgelaufen` of `beanspruche` -/
def abgelaufen (jetzt : Zeit) (row : MailWeiterleitungLog) : Bool :=
  row.status == .inBearbeitung && decide (row.updatedAt < jetzt - claimLease)

def waehlbar (jetzt : Zeit) (wartezeit : Int) (logId : Option Nat) (row : MailWeiterleitungLog) : Bool :=
  match logId with
  | none => faellig jetzt wartezeit row || abgelaufen jetzt row
  | some id => row.id == id && (row.status == .wartend || abgelaufen jetzt row)

/-- The entries that `beanspruche` takes; rows that are locked are skipped. -/
def gewaehlt (jetzt : Zeit) (wartezeit : Int) (logId : Option Nat) (gesperrt : List Nat) (zeilen : List MailWeiterleitungLog) :
    List Nat :=
  ((zeilen.filter fun row => waehlbar jetzt wartezeit logId row && !gesperrt.contains row.id).map (·.id)).take 10

end Beanspruche

variable (regeln : Nat → Regel) (wartezeit : Int)

namespace Welt

def setze (w : Welt) (arbeiter : Nat) (phase : Phase) : Welt :=
  { w with arbeiter := w.arbeiter.set arbeiter phase }

/-- `func.count` of `verarbeite_log`: what was recorded in the last hour. -/
def gesendet (w : Welt) (regel : Nat) : Nat :=
  w.zeilen.rows.countP fun row =>
    row.weiterleitungId == regel && row.status == .gesendet && decide (w.uhr - stunden 1 ≤ row.updatedAt)

/-- The update of `beanspruche` -/
def beanspruche (w : Welt) (ids : List Nat) : Welt :=
  { w with
    zeilen := w.zeilen.map (fun row =>
      if row.id ∈ ids then { row with status := .inBearbeitung, updatedAt := w.uhr } else row)
      fun row => by split <;> rfl }

/-- `log.versuche += 1` of what was read; the update renews the claim, since
`updated_at` is set by `onupdate`. -/
def beginne (w : Welt) (id versuche : Nat) : Welt :=
  { w with
    zeilen := w.zeilen.modify id (fun row => { row with versuche := versuche + 1, updatedAt := w.uhr }) fun _ => rfl
    begonnen := w.begonnen ++ ((w.zeilen.get? id).map MailWeiterleitungLog.schluessel).toList }

def nimmAn (w : Welt) (row : MailWeiterleitungLog) : Welt :=
  { w with angenommen := w.angenommen ++ [⟨row.weiterleitungId, row.resendEmailId, w.uhr⟩] }

/-- `_ergebnis` -/
def ergebnis (w : Welt) (id : Nat) (status : Status) (fehlercode : Option String) : Welt :=
  { w with zeilen := w.zeilen.modify id (fun row => { row with status, fehlercode, updatedAt := w.uhr }) fun _ => rfl }

end Welt

def arbeite (w : Welt) (arbeiter : Nat) (phase : Phase) : Schritt → Welt
  | .beanspruche _ logId gesperrt =>
    match phase with
    | .stapel [] =>
      let ids := gewaehlt w.uhr wartezeit logId gesperrt w.zeilen.rows
      (w.beanspruche ids).setze arbeiter (.stapel ids)
    | _ => w
  | .lies _ =>
    match phase with
    | .stapel (id :: rest) =>
      match w.zeilen.get? id with
      | some row =>
        if row.status = .inBearbeitung then w.setze arbeiter (.gelesen id row.versuche rest)
        else w.setze arbeiter (.stapel rest)
      | none => w.setze arbeiter (.stapel rest)
    | _ => w
  | .beginne _ aktiv =>
    match phase with
    | .gelesen id versuche rest =>
      if aktiv then (w.beginne id versuche).setze arbeiter (.laeuft id rest)
      else w.setze arbeiter (.ergebnis id .uebersprungen (some "regel_inaktiv") rest)
    | _ => w
  | .ueberspringe _ fehlercode =>
    match phase with
    | .laeuft id rest | .geprueft id rest => w.setze arbeiter (.ergebnis id .uebersprungen (some fehlercode) rest)
    | _ => w
  | .zaehle _ =>
    match phase with
    | .laeuft id rest =>
      match w.zeilen.get? id with
      | some row =>
        if max 1 (regeln row.weiterleitungId).maxProStunde ≤ w.gesendet row.weiterleitungId then
          w.setze arbeiter (.ergebnis id .uebersprungen (some "rate_limit") rest)
        else w.setze arbeiter (.geprueft id rest)
      | none => w
    | _ => w
  | .sende _ =>
    match phase with
    | .geprueft id rest =>
      match w.zeilen.get? id with
      | some row => (w.nimmAn row).setze arbeiter (.ergebnis id .gesendet none rest)
      | none => w
    | _ => w
  | .scheitere _ =>
    match phase with
    | .laeuft id rest | .geprueft id rest =>
      match w.zeilen.get? id with
      | some row =>
        let final := maxVersuche ≤ row.versuche
        w.setze arbeiter (.ergebnis id (if final then .fehler else .wartend) (some "versand") rest)
      | none => w.setze arbeiter (.stapel rest)
    | _ => w
  | .melde _ =>
    match phase with
    | .ergebnis id status fehlercode rest => (w.ergebnis id status fehlercode).setze arbeiter (.stapel rest)
    | _ => w
  | .absturz _ =>
    -- a worker that crashes does so before its send call
    match phase with
    | .ergebnis _ .gesendet _ _ => w
    | _ => w.setze arbeiter (.stapel [])
  | _ => w

def Schritt.arbeiter? : Schritt → Option Nat
  | warte _ | pruefe .. | fuegeEin .. => none
  | beanspruche arbeiter .. | lies arbeiter | beginne arbeiter _ | ueberspringe arbeiter _ | zaehle arbeiter
  | sende arbeiter | scheitere arbeiter | melde arbeiter | absturz arbeiter => some arbeiter

def schritt (w : Welt) (a : Schritt) : Welt :=
  match a.arbeiter? with
  | some arbeiter =>
    match w.arbeiter[arbeiter]? with
    | some phase => arbeite regeln wartezeit w arbeiter phase a
    | none => w
  | none =>
    match a with
    | .warte dauer => { w with uhr := w.uhr + dauer }
    | .pruefe eingang regel emailId =>
      -- the first half of `stelle_in_warteschlange`
      if emailId = "" ∨ w.zeilen.rows.any fun row => row.schluessel == (regel, emailId) then w
      else { w with eingaenge := w.eingaenge.set eingang (some (regel, emailId)) }
    | .fuegeEin eingang bounce =>
      match w.eingaenge[eingang]? with
      | some (some (regel, emailId)) =>
        let row := if bounce then logRow regel emailId .uebersprungen (some "bounce") w.uhr
          else logRow regel emailId .wartend none w.uhr
        { w with
          zeilen := w.zeilen.insert row fun id => by cases bounce <;> rfl
          eingaenge := w.eingaenge.set eingang none }
      | _ => w
    | _ => w

def start (arbeiter eingaenge : Nat) : Welt :=
  { arbeiter := List.replicate arbeiter (.stapel []), eingaenge := List.replicate eingaenge none }

end Einsatzcockpit.Weiterleitung
