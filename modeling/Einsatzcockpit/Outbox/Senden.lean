import Einsatzcockpit.Lib.Run
import Mathlib.Algebra.Group.Nat.Defs
import Mathlib.Data.List.Sort
import Einsatzcockpit.Lib.Table

/-! The persistent outbox of the unit tablet, `einheit_outbox.js`. -/

namespace Einsatzcockpit.Outbox

inductive Typ where
  | status | meldung | foto | material | materialZurueck | materialFoto | ressourcePersonal | ressourceAusstattung
  deriving DecidableEq

/-- `["foto", "material_foto"].includes(typ)` -/
def Typ.istFoto : Typ → Bool
  | foto | materialFoto => true
  | _ => false

inductive Status where
  | ausstehend | fehlerNetz | fehler | konflikt | blockiertZugang
  deriving DecidableEq

/-- Still to be sent: `ausstehend` or `fehler_netz`. -/
def Status.offen : Status → Bool
  | ausstehend | fehlerNetz => true
  | _ => false

/-- An entry of the store `outbox`; `materialClientUuid` is the part of the
payload that the outbox reads. Times are in milliseconds. -/
structure Eintrag where
  clientUuid : String
  seq : Nat
  typ : Typ
  dispatchId : Option Nat
  einheitId : Option Nat := none
  materialClientUuid : Option String := none
  versuche : Nat := 0
  status : Status := .ausstehend
  letzterFehler : Option String := none
  naechsterVersuchAt : Option Int := none
  konfliktDetails : Option String := none
  deriving DecidableEq

/-- `faellig` -/
def faellig (jetzt : Int) (eintrag : Eintrag) : Bool :=
  eintrag.status == .ausstehend ||
    (eintrag.status == .fehlerNetz && eintrag.naechsterVersuchAt.any fun zeit => decide (zeit ≤ jetzt))

/-- `rueckoff` -/
def rueckoff (versuche : Nat) : Nat := min (2000 * 2 ^ (versuche - 1)) 60000

/-- What `setze` is told to write. -/
structure Aenderung where
  status : Status
  letzterFehler : String
  versuche : Option Nat := none
  naechsterVersuchAt : Option Int := none
  konfliktDetails : Option (Option String) := none
  deriving DecidableEq

def Aenderung.auf (aenderung : Aenderung) (eintrag : Eintrag) : Eintrag :=
  { eintrag with
    status := aenderung.status
    letzterFehler := some aenderung.letzterFehler
    versuche := aenderung.versuche.getD eintrag.versuche
    naechsterVersuchAt := aenderung.naechsterVersuchAt
    konfliktDetails := aenderung.konfliktDetails.getD eintrag.konfliktDetails }

/-- The retry that `senden` schedules. -/
def spaeter (jetzt : Int) (eintrag : Eintrag) (text : String) : Aenderung :=
  { status := .fehlerNetz
    letzterFehler := text
    versuche := some (eintrag.versuche + 1)
    naechsterVersuchAt := some (jetzt + rueckoff (eintrag.versuche + 1)) }

structure Koerper where
  aktionId : Option Nat := none
  ok : Option Bool := none
  code : Option String := none
  detail : Option String := none
  details : Option String := none

/-- A reply; `offline` says that the service worker has made it up. -/
structure Antwort where
  status : Nat
  offline : Bool := false
  koerper : Option Koerper := none

/-- `response.ok` -/
def Antwort.ok (antwort : Antwort) : Bool := decide (200 ≤ antwort.status ∧ antwort.status ≤ 299)

/-- The reply of the server that it has taken the entry, with its `aktion_id`. -/
def Antwort.bestaetigt (antwort : Antwort) : Bool :=
  antwort.ok && !antwort.offline &&
    antwort.koerper.any fun koerper => koerper.aktionId.any (· != 0) && koerper.ok != some false

def Antwort.code (antwort : Antwort) : String :=
  match antwort.koerper.bind (·.code) with
  | some code => if code = "" then s!"http_{antwort.status}" else code
  | none => s!"http_{antwort.status}"

/-- What `senden` does with a reply; `weiter` is what it then returns. -/
inductive Folge where
  | bestaetigen
  | sperren
  | schreiben (aenderung : Aenderung) (weiter : Bool)

def auswerten (jetzt : Int) (eintrag : Eintrag) (antwort : Antwort) : Folge :=
  if antwort.bestaetigt then .bestaetigen
  else if antwort.status = 401 then .sperren
  else
    let csrfAbgleich := antwort.status = 403 ∧
      antwort.koerper.bind (·.detail) = some "CSRF-Token fehlt oder ungültig"
    if ¬ csrfAbgleich ∧ (antwort.status = 409 ∨ antwort.status = 403 ∨ antwort.status = 404) then
      .schreiben
        { status := .konflikt
          letzterFehler := antwort.code
          konfliktDetails := some (antwort.koerper.bind (·.details)) } true
    else if csrfAbgleich ∨ 500 ≤ antwort.status ∨ antwort.status = 408 ∨ antwort.status = 429 ∨ antwort.ok then
      .schreiben (spaeter jetzt eintrag antwort.code) false
    else .schreiben { status := .fehler, letzterFehler := antwort.code } true

theorem auswerten_weiter {jetzt : Int} {eintrag : Eintrag} {antwort : Antwort} {aenderung : Aenderung}
    (written : auswerten jetzt eintrag antwort = .schreiben aenderung true) : aenderung.status.offen = false := by
  unfold auswerten at written
  split at written
  · cases written
  · split at written
    · cases written
    · dsimp only at written
      split at written
      · cases written
        rfl
      · split at written
        · cases written
        · cases written
          rfl

theorem auswerten_bestaetigen {jetzt : Int} {eintrag : Eintrag} {antwort : Antwort}
    (taken : auswerten jetzt eintrag antwort = .bestaetigen) : antwort.bestaetigt = true := by
  unfold auswerten at taken
  split at taken
  · assumption
  · split at taken
    · cases taken
    · dsimp only at taken
      split at taken
      · cases taken
      · split at taken <;> cases taken

inductive Phase where
  /-- before the next entry -/
  | bereit
  /-- before `senden` itself -/
  | senden
  /-- `senden` reads the row again -/
  | lesen
  /-- `fotoDatei` -/
  | foto (eintrag : Eintrag)
  /-- `vorSenden` -/
  | pruefung (eintrag : Eintrag)
  /-- `fetch` -/
  | unterwegs (eintrag : Eintrag)
  /-- `setze`, and what `senden` returns after it -/
  | schreibt (aenderung : Aenderung) (weiter : Bool)
  /-- `bestaetigen` -/
  | bestaetigt
  /-- `senden` has returned `"weiter"` or `"blockiert"`. -/
  | fertig (weiter : Bool)
  /-- the photo of a material that was refused -/
  | materialFehlt
  deriving DecidableEq

/-- The loop over the entries of one dispatch, or one photo. The entries are
those of the snapshot the flush has taken. -/
structure Spur where
  rest : List Eintrag
  phase : Phase := .bereit

/-- A call of `blockiereZugang` after its synchronous part. -/
inductive Sperre where
  | liest
  | schreibt (eintraege : List Eintrag)
  | fertig

/-- The stores and the tab. `gesendet` and `antworten` record the POSTs and
the replies to them. -/
structure Welt where
  outbox : List Eintrag
  seq : Nat
  vergeben : List String
  jetzt : Int := 0
  einheitId : Option Nat := none
  terminal : Bool := false
  inBearbeitung : List String := []
  spuren : List Spur := []
  sperren : List Sperre := []
  gesendet : List Eintrag := []
  antworten : List (String × Antwort) := []

/-- What `erfassenPaket` is given for an entry. -/
structure Erfassung where
  clientUuid : String
  typ : Typ
  dispatchId : Option Nat := none
  einheitId : Option Nat := none
  materialClientUuid : Option String := none

/-- What the context check before a POST ends with: the access goes on, or it
is over and the check has blocked it. -/
inductive Kontext where
  | frei | beendet

inductive Aktion where
  | uhr (jetzt : Int)
  | erfassen (daten : List Erfassung)
  | wiederverbunden
  | statusSpuren
  | fotoSpur
  | weiter (spur : Nat)
  | fotoDatei (spur : Nat) (lesbar : Bool)
  | kontext (spur : Nat) (kontext : Kontext)
  | antwort (spur : Nat) (antwort : Antwort)
  | netzfehler (spur : Nat) (text : String)
  | timeout (spur : Nat)
  | ausfall (spur : Nat)
  | spaetesFoto (clientUuid : String)
  | blockiereZugang
  | sperre (sperre : Nat)

namespace Welt

variable (w : Welt)

def zeile? (clientUuid : String) : Option Eintrag := w.outbox.find? fun eintrag => eintrag.clientUuid == clientUuid

/-- The transaction of `setze`. -/
def setze (clientUuid : String) (aenderung : Aenderung) : Welt :=
  { w with
    outbox := Relational.update (fun e => e.clientUuid == clientUuid && e.status != .blockiertZugang) aenderung.auf
      w.outbox }

/-- The transaction of `bestaetigen`. -/
def bestaetigen (clientUuid : String) : Welt :=
  if w.terminal || (w.zeile? clientUuid).all fun e => e.status == .blockiertZugang then w
  else { w with outbox := w.outbox.filter fun e => e.clientUuid != clientUuid }

/-- `put` of a whole entry. -/
def put (eintrag : Eintrag) : Welt :=
  if w.outbox.any fun e => e.clientUuid == eintrag.clientUuid then
    { w with outbox := Relational.update (fun e => e.clientUuid == eintrag.clientUuid) (fun _ => eintrag) w.outbox }
  else { w with outbox := w.outbox ++ [eintrag] }

def blockiert (eintrag : Eintrag) : Eintrag :=
  { eintrag with
    status := .blockiertZugang
    letzterFehler := some "zugang_beendet"
    naechsterVersuchAt := none }

/-- The synchronous part of `blockiereZugang`. -/
def blockiereZugang : Welt := { w with terminal := true, sperren := w.sperren ++ [.liest] }

def setSpur (i : Nat) (spur : Spur) : Welt := { w with spuren := w.spuren.set i spur }

/-- `finally`: the call of `senden` is over. -/
def beendet (clientUuid : String) : Welt := { w with inBearbeitung := w.inBearbeitung.erase clientUuid }

/-- The rows `erfassenPaket` adds from sequence number `seq` on. -/
def neueEintraege (terminal : Bool) : Nat → List Erfassung → List Eintrag
  | _, [] => []
  | seq, daten :: rest =>
    let eintrag : Eintrag := {
      clientUuid := daten.clientUuid
      seq := seq + 1
      typ := daten.typ
      dispatchId := daten.dispatchId
      einheitId := daten.einheitId
      materialClientUuid := daten.materialClientUuid }
    let eintrag := if terminal then
      { eintrag with status := .blockiertZugang, letzterFehler := some "zugang_beendet" } else eintrag
    eintrag :: neueEintraege terminal (seq + 1) rest

/-- The transaction of `erfassenPaket`; the uuids are new ones. -/
def erfassen (daten : List Erfassung) : Welt :=
  let uuids := daten.map (·.clientUuid)
  if uuids.any w.vergeben.contains || !decide uuids.Nodup then w
  else
    { w with
      outbox := w.outbox ++ neueEintraege w.terminal w.seq daten
      seq := w.seq + daten.length
      vergeben := w.vergeben ++ uuids }

/-- The transaction of `flush({ wiederverbunden: true })`. -/
def wiederverbunden : Welt :=
  { w with
    outbox := Relational.update (fun e => e.status == .fehlerNetz && !w.inBearbeitung.contains e.clientUuid)
      (fun e => { e with status := .ausstehend, naechsterVersuchAt := none }) w.outbox }

/-- `(await alle("outbox")).sort((a, b) => a.seq - b.seq)` -/
def eintraege : List Eintrag := w.outbox.insertionSort fun a b => a.seq ≤ b.seq

/-- `statusSpurenFlushen`: one lane for each dispatch. Runs are chained, but a
run whose storage fails releases the chain while its other lanes go on, so
lanes of several runs can be under way. -/
def statusSpuren : Welt :=
  let offene := w.eintraege.filter fun e => !e.typ.istFoto && e.status.offen
  { w with
    spuren := w.spuren ++ (offene.map (·.dispatchId)).eraseDups.map fun dispatchId =>
      { rest := offene.filter fun e => e.dispatchId == dispatchId } }

/-- `fotoSpurFlushen`: every photo on its own. -/
def fotoSpur : Welt :=
  let fotos := w.eintraege.filter fun e =>
    e.typ.istFoto && faellig w.jetzt e && !w.inBearbeitung.contains e.clientUuid
  { w with
    spuren := w.spuren ++ fotos.filterMap fun foto =>
      let material := if foto.typ = .materialFoto then
        w.eintraege.find? fun e => some e.clientUuid == foto.materialClientUuid else none
      match material with
      | none => some { rest := [foto], phase := .senden }
      | some material =>
        if material.status = .konflikt ∨ material.status = .fehler then some { rest := [foto], phase := .materialFehlt }
        else none }

/-- The start of `senden`. -/
def senden (i : Nat) (spur : Spur) (eintrag : Eintrag) : Welt :=
  if w.terminal || w.inBearbeitung.contains eintrag.clientUuid then w.setSpur i { rest := [] }
  else { w.setSpur i { spur with phase := .lesen } with inBearbeitung := eintrag.clientUuid :: w.inBearbeitung }

/-- The lane goes on by itself: it looks at its next entry, or its read or
write has come through. -/
def weiter (i : Nat) (spur : Spur) : Welt :=
  match spur.rest with
  | [] => w
  | eintrag :: rest =>
    match spur.phase with
    | .bereit =>
      if !faellig w.jetzt eintrag || w.inBearbeitung.contains eintrag.clientUuid then w.setSpur i { rest := [] }
      else w.senden i spur eintrag
    | .senden => w.senden i spur eintrag
    | .lesen =>
      match w.zeile? eintrag.clientUuid with
      | none => w.setSpur i { spur with phase := .fertig false }
      | some aktuell =>
        if w.terminal || !faellig w.jetzt aktuell then w.setSpur i { spur with phase := .fertig false }
        else if w.einheitId.isSome && aktuell.einheitId != w.einheitId then
          w.setSpur i { spur with
            phase := .schreibt { status := .konflikt, letzterFehler := "einheit_gewechselt" } true }
        else if aktuell.typ.istFoto then w.setSpur i { spur with phase := .foto aktuell }
        else w.setSpur i { spur with phase := .pruefung aktuell }
    | .schreibt aenderung weiter =>
      (w.setze eintrag.clientUuid aenderung).setSpur i { spur with phase := .fertig weiter }
    | .bestaetigt => (w.bestaetigen eintrag.clientUuid).setSpur i { spur with phase := .fertig true }
    | .fertig true => (w.beendet eintrag.clientUuid).setSpur i { rest }
    | .fertig false => (w.beendet eintrag.clientUuid).setSpur i { rest := [] }
    | .materialFehlt =>
      (w.setze eintrag.clientUuid { status := .konflikt, letzterFehler := "material_nicht_angelegt" }).setSpur i
        { rest := [] }
    | .foto _ | .pruefung _ | .unterwegs _ => w

def fotoDatei (i : Nat) (spur : Spur) (lesbar : Bool) : Welt :=
  match spur.phase with
  | .foto eintrag =>
    if lesbar then w.setSpur i { spur with phase := .pruefung eintrag }
    else w.setSpur i { spur with phase := .schreibt { status := .fehler, letzterFehler := "foto_daten_fehlen" } true }
  | _ => w

/-- `vorSenden` comes back, and the POST leaves without a further wait. -/
def kontext (i : Nat) (spur : Spur) (kontext : Kontext) : Welt :=
  match spur.phase with
  | .pruefung eintrag =>
    match kontext with
    | .frei =>
      if w.terminal then w.setSpur i { spur with phase := .fertig false }
      else { w.setSpur i { spur with phase := .unterwegs eintrag } with gesendet := w.gesendet ++ [eintrag] }
    | .beendet => w.blockiereZugang.setSpur i { spur with phase := .fertig false }
  | _ => w

def antwort (i : Nat) (spur : Spur) (antwort : Antwort) : Welt :=
  match spur.phase with
  | .unterwegs eintrag =>
    let w := { w with antworten := w.antworten ++ [(eintrag.clientUuid, antwort)] }
    if w.terminal then w.setSpur i { spur with phase := .fertig false }
    else
      match auswerten w.jetzt eintrag antwort with
      | .bestaetigen => w.setSpur i { spur with phase := .bestaetigt }
      | .sperren => w.blockiereZugang.setSpur i { spur with phase := .fertig false }
      | .schreiben aenderung weiter => w.setSpur i { spur with phase := .schreibt aenderung weiter }
  | _ => w

/-- `catch`: the transmission is unconfirmed and the entry is tried again. -/
def gescheitert (i : Nat) (spur : Spur) (eintrag : Eintrag) (text : String) : Welt :=
  if w.terminal then w.setSpur i { spur with phase := .fertig false }
  else w.setSpur i { spur with phase := .schreibt (spaeter w.jetzt eintrag text) false }

def netzfehler (i : Nat) (spur : Spur) (text : String) : Welt :=
  match spur.phase with
  | .pruefung eintrag | .unterwegs eintrag => w.gescheitert i spur eintrag text
  | _ => w

def timeout (i : Nat) (spur : Spur) : Welt :=
  match spur.phase with
  | .foto eintrag | .pruefung eintrag | .unterwegs eintrag =>
    w.gescheitert i spur eintrag "uebertragung_unbestaetigt"
  | _ => w

/-- The storage fails and `senden` rejects. -/
def ausfall (i : Nat) (spur : Spur) : Welt :=
  match spur.rest, spur.phase with
  | eintrag :: _, .lesen | eintrag :: _, .schreibt _ _ | eintrag :: _, .bestaetigt =>
    (w.beendet eintrag.clientUuid).setSpur i { rest := [] }
  | _, .materialFehlt => w.setSpur i { rest := [] }
  | _, _ => w

def spaetesFoto (clientUuid : String) : Welt :=
  if (w.zeile? clientUuid).any fun e => e.typ.istFoto then
    w.setze clientUuid { status := .fehler, letzterFehler := "foto_daten_fehlen" }
  else w

/-- `blockiereZugang` reads the entries, then writes those it has read. -/
def sperre (k : Nat) : Welt :=
  match w.sperren[k]? with
  | some .liest => { w with sperren := w.sperren.set k (.schreibt w.outbox) }
  | some (.schreibt eintraege) =>
    let w := { w with sperren := w.sperren.set k .fertig }
    (eintraege.filter (·.status.offen)).foldl (fun w e => w.put (blockiert e)) w
  | _ => w

end Welt

def anSpur (w : Welt) (i : Nat) (aktion : Spur → Welt) : Welt :=
  match w.spuren[i]? with
  | none => w
  | some spur => aktion spur

def step (w : Welt) : Aktion → Welt
  | .uhr jetzt => { w with jetzt }
  | .erfassen daten => w.erfassen daten
  | .wiederverbunden => w.wiederverbunden
  | .statusSpuren => w.statusSpuren
  | .fotoSpur => w.fotoSpur
  | .weiter i => anSpur w i (w.weiter i)
  | .fotoDatei i lesbar => anSpur w i fun spur => w.fotoDatei i spur lesbar
  | .kontext i kontext => anSpur w i fun spur => w.kontext i spur kontext
  | .antwort i antwort => anSpur w i fun spur => w.antwort i spur antwort
  | .netzfehler i text => anSpur w i fun spur => w.netzfehler i spur text
  | .timeout i => anSpur w i (w.timeout i)
  | .ausfall i => anSpur w i (w.ausfall i)
  | .spaetesFoto clientUuid => w.spaetesFoto clientUuid
  | .blockiereZugang => w.blockiereZugang
  | .sperre k => w.sperre k

/-- The stores as the tab finds them; `client_uuid` is the key of the entries. -/
structure Speicher where
  outbox : List Eintrag := []
  seq : Nat := 0
  eindeutig : (outbox.map (·.clientUuid)).Nodup
  folge : ∀ eintrag ∈ outbox, eintrag.seq ≤ seq

def Speicher.start (speicher : Speicher) (einheitId : Option Nat) : Welt :=
  { outbox := speicher.outbox
    seq := speicher.seq
    vergeben := speicher.outbox.map (·.clientUuid)
    einheitId }

end Einsatzcockpit.Outbox
