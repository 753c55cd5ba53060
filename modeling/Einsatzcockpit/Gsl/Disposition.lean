import Einsatzcockpit.Gsl.Records

namespace Einsatzcockpit.Gsl

variable (lage : Lage)

/-- `_get_einheit` -/
def getEinheit (einheitId lageId : Nat) : Except Fehler LageEinheit :=
  match lage.einheit? einheitId with
  | some e => if e.lageId = lageId then .ok e else .error (.wert "Einheit nicht gefunden")
  | none => .error (.wert "Einheit nicht gefunden")

def getSite (siteId lageId : Nat) : Except Fehler IncidentSite :=
  match lage.site? siteId with
  | some site => if site.majorIncidentId = lageId then .ok site else .error (.wert "Einsatzstelle nicht gefunden")
  | none => .error (.wert "Einsatzstelle nicht gefunden")

/-- `_validiere_auftragsdaten` -/
def validiereAuftragsdaten (auftrag : Option String) (reihenfolge : Option Int) :
    Except Fehler (Option String × Option Int) :=
  let bereinigt := (orNone auftrag).map strip
  if bereinigt.any fun text => decide (text.length > 2000) then
    .error (.wert "Auftrag darf höchstens 2000 Zeichen haben")
  else if reihenfolge.any fun n => decide (n < 1) then .error (.wert "Reihenfolge muss mindestens 1 sein")
  else .ok (bereinigt, reihenfolge)

def imEinsatz (now : Zeit) (e : LageEinheit) : LageEinheit :=
  if e.status = .bereitgestellt then { e with status := .imEinsatz, committedAt := some now } else e

/-- The values `Auftragsart` of a request can take. -/
def Auftragsart.lies : String → Option Auftragsart
  | "erkundung" => some .erkundung
  | "abarbeitung" => some .abarbeitung
  | _ => none

def offeneAn (einheitId siteId : Nat) (d : EinheitSiteDispatch) : Bool :=
  d.einheitId == einheitId && d.siteId == siteId && d.offen

def aktivAnderswo (einheitId siteId : Nat) (d : EinheitSiteDispatch) : Bool :=
  d.einheitId == einheitId && d.siteId != siteId && d.aktiv

/-- The guards of `dispatch_to_site`, in their order. -/
def pruefeDisposition (einheitId lageId siteId : Nat) (auftrag : Option String) (auftragsart : String)
    (reihenfolge : Option Int) : Except Fehler (Auftragsart × Option String × Option Int) := do
  let e ← getEinheit lage einheitId lageId
  if let some verbandId := e.verbandId then
    let label := ((lage.einheit? verbandId).map (·.label)).getD (toString verbandId)
    throw (.wert s!"Einheit gehoert zu Verband {label}; bitte den Verband disponieren")
  let site ← getSite lage siteId lageId
  if site.phase.geschlossen then throw (.wert "Einsatz zuerst wieder öffnen")
  let some art := Auftragsart.lies auftragsart | throw (.wert "Unbekannte Auftragsart")
  if lage.dispatches.any fun d => offeneAn einheitId siteId d && d.auftragsart == art then
    throw (.wert s!"Einheit bereits für \"{site.bezeichnung}\" disponiert")
  let (auftrag, reihenfolge) ← validiereAuftragsdaten auftrag reihenfolge
  return (art, auftrag, reihenfolge)

/-- The row `dispatch_to_site` and `set_vor_ort_at_site` add. -/
def neueDisposition (now : Zeit) (akteur : Akteur) (einheitId siteId : Nat) : EinheitSiteDispatch :=
  { id := lage.naechsteId
    einheitId
    siteId
    dispatchedAt := now
    statusAt := some now
    dispatchedBy := akteur.userId
    authorName := akteur.authorName }

/-- `dispatch_to_site`: the id of the new dispatch and whether the phase has changed. -/
def dispatchToSite (now : Zeit) (akteur : Akteur) (einheitId lageId siteId : Nat) (auftrag : Option String)
    (auftragsart : String) (reihenfolge : Option Int) : Wirkung (Nat × Bool) :=
  match pruefeDisposition lage einheitId lageId siteId auftrag auftragsart reihenfolge with
  | .error fehler => (.error fehler, lage)
  | .ok (auftragsart, auftrag, reihenfolge) =>
    let neu := { neueDisposition lage now akteur einheitId siteId with auftrag, auftragsart, reihenfolge }
    let lage := lage.addDispatch neu
    let lage := lage.setEinheit einheitId fun e =>
      if e.status = .bereitgestellt then { imEinsatz now e with statusAt := some now } else e
    let (phaseGeaendert, lage) := aktualisiereSitePhase lage siteId
    (.ok (neu.id, phaseGeaendert), lage)

/-- The row `oeffne_auftrag_wieder` leaves. -/
def wiedereroeffnet (now : Zeit) (d : EinheitSiteDispatch) : EinheitSiteDispatch :=
  { d with
    einheitStatus := .zugewiesen
    statusAt := some now
    beendetAt := none
    beendetGrund := none
    abgezogenAt := none
    abgezogenBy := none
    abgezogenAuthor := none
    version := d.version + 1
    geaendertAt := some now }

/-- `oeffne_auftrag_wieder` -/
def oeffneAuftragWieder (now : Zeit) (dispatchId : Nat) : Wirkung Bool :=
  match lage.dispatch? dispatchId with
  | none => (.error (.wert "Auftrag nicht gefunden"), lage)
  | some dispatch =>
    if dispatch.beendetAt.isNone then (.error (.wert "Auftrag ist nicht beendet"), lage)
    else
      let lage := lage.setDispatch dispatchId (wiedereroeffnet now)
      let (phaseGeaendert, lage) := aktualisiereSitePhase lage dispatch.siteId
      (.ok phaseGeaendert, lage)

/-- The row `ziehe_fertige_einheit_ab` leaves. -/
def abgezogen (now : Zeit) (akteur : Akteur) (automatisch : Bool) (d : EinheitSiteDispatch) : EinheitSiteDispatch :=
  { d with
    abgezogenAt := some now
    abgezogenBy := akteur.userId
    abgezogenAuthor := akteur.authorName
    version := if automatisch then d.version else d.version + 1
    geaendertAt := if automatisch then d.geaendertAt else some now }

def verlaesst (siteId : Nat) (e : LageEinheit) : LageEinheit :=
  if e.incidentSiteId = some siteId then { e with incidentSiteId := none } else e

/-- `ziehe_fertige_einheit_ab` -/
def zieheFertigeEinheitAb (now : Zeit) (akteur : Akteur) (dispatchId : Nat) (automatisch : Bool) : Wirkung Bool :=
  match lage.dispatch? dispatchId with
  | none => (.error (.wert "Auftrag nicht gefunden"), lage)
  | some dispatch =>
    if dispatch.withdrawnAt.isSome then (.error (.wert "Auftrag ist zurückgezogen"), lage)
    else if dispatch.beendetAt.isNone then (.error (.wert "Auftrag ist nicht beendet"), lage)
    else if dispatch.abgezogenAt.isSome then (.ok false, lage)
    else
      let anderer := lage.dispatches.any fun d =>
        d.einheitId == dispatch.einheitId && d.id != dispatchId && d.siteId == dispatch.siteId && d.aktiv
      let lage := lage.setDispatch dispatchId (abgezogen now akteur automatisch)
      let lage := if anderer then lage else lage.setEinheit dispatch.einheitId (verlaesst dispatch.siteId)
      (.ok true, lage)

def angekommen (now : Zeit) (site : IncidentSite) (e : LageEinheit) : LageEinheit :=
  imEinsatz now { e with incidentSiteId := some site.id, sectorId := site.sectorId }

def vorOrt (now : Zeit) (d : EinheitSiteDispatch) : EinheitSiteDispatch :=
  { d with
    vorOrtAt := some now
    einheitStatus := if d.einheitStatus = .inArbeit then .inArbeit else .vorOrt
    statusAt := some now }

/-- The dispatch a unit arrives with: an active one first, else the oldest live one. -/
def vorhandene (einheitId siteId : Nat) : Option EinheitSiteDispatch :=
  let offene := lage.dispatches.filter (offeneAn einheitId siteId)
  (offene.find? (·.einheitStatus.aktiv)).or offene.head?

/-- `set_vor_ort_at_site`: the dispatch and whether the phase has changed, or
the conflicting dispatch. -/
def setVorOrtAtSite (now : Zeit) (akteur : Akteur) (einheitId lageId siteId : Nat) : Wirkung (Nat × Bool ⊕ Nat) :=
  match getEinheit lage einheitId lageId, getSite lage siteId lageId with
  | .error fehler, _ => (.error fehler, lage)
  | _, .error fehler => (.error fehler, lage)
  | .ok _, .ok site =>
    match lage.dispatches.find? (aktivAnderswo einheitId siteId) with
    | some conflict => (.ok (.inr conflict.id), lage)
    | none =>
      let (dispatchId, lage) := match vorhandene lage einheitId siteId with
        | some dispatch => (dispatch.id, lage)
        | none => (lage.naechsteId, lage.addDispatch (neueDisposition lage now akteur einheitId siteId))
      let lage := lage.setDispatch dispatchId (vorOrt now)
      let lage := lage.setEinheit einheitId (angekommen now site)
      let (phaseGeaendert, lage) := aktualisiereSitePhase lage siteId
      (.ok (.inl (dispatchId, phaseGeaendert)), lage)

/-- The loop of `resolve_vor_ort_conflict` over the old dispatches. -/
def verlege (now : Zeit) (alte : List EinheitSiteDispatch) (lage : Lage) : Lage :=
  alte.foldl (fun lage d =>
    let lage := lage.setDispatch d.id fun d => { d with withdrawnAt := some now }
    (aktualisiereSitePhase lage d.siteId).2) lage

/-- `resolve_vor_ort_conflict` -/
def resolveVorOrtConflict (now : Zeit) (akteur : Akteur) (einheitId lageId siteId : Nat) :
    Wirkung (Nat × Bool ⊕ Nat) :=
  match getEinheit lage einheitId lageId with
  | .error fehler => (.error fehler, lage)
  | .ok _ =>
    let alte := lage.dispatches.filter (aktivAnderswo einheitId siteId)
    setVorOrtAtSite (verlege now alte lage) now akteur einheitId lageId siteId

/-- The row `withdraw_from_site` leaves. -/
def zurueckgezogen (now : Zeit) (akteur : Akteur) (grund : Option String) (d : EinheitSiteDispatch) :
    EinheitSiteDispatch :=
  { d with
    withdrawnAt := some now
    withdrawnBy := akteur.userId
    withdrawnAuthor := akteur.authorName
    withdrawnGrund := orNone (some (strip (grund.getD "")))
    version := d.version + 1
    geaendertAt := some now }

/-- The dispatch `withdraw_from_site` picks: a live one before an ended one,
then by id. `stand` is what the database holds, which in a session without
autoflush can lag behind the session. -/
def zurueckzuziehen (stand : List EinheitSiteDispatch) (einheitId siteId : Nat) (auftragsart : Option Auftragsart) :
    Option EinheitSiteDispatch :=
  let passende := stand.filter fun d =>
    d.einheitId == einheitId && d.siteId == siteId && d.withdrawnAt.isNone && d.abgezogenAt.isNone &&
      auftragsart.all fun art => d.auftragsart == art
  (passende.find? (·.beendetAt.isNone)).or passende.head?

/-- `withdraw_from_site` -/
def withdrawFromSite (stand : List EinheitSiteDispatch) (now : Zeit) (akteur : Akteur)
    (einheitId lageId siteId : Nat) (grund : Option String) (auftragsart : Option Auftragsart) : Wirkung Bool :=
  if grund.any fun grund => decide ((strip grund).length > 500) then
    (.error (.wert "Grund darf höchstens 500 Zeichen haben"), lage)
  else
    match getEinheit lage einheitId lageId, zurueckzuziehen stand einheitId siteId auftragsart with
    | .error fehler, _ => (.error fehler, lage)
    | .ok _, none => (.error (.wert "Keine aktive Disposition für diese Einsatzstelle"), lage)
    | .ok _, some dispatch =>
      if dispatch.beendetAt.isSome then
        match zieheFertigeEinheitAb lage now akteur dispatch.id false with
        | (.error fehler, lage) => (.error fehler, lage)
        | (.ok _, lage) => (.ok false, lage)
      else
        let lage := lage.setDispatch dispatch.id (zurueckgezogen now akteur grund)
        let lage := lage.setEinheit einheitId (verlaesst siteId)
        let (phaseGeaendert, lage) := aktualisiereSitePhase lage siteId
        (.ok phaseGeaendert, lage)

/-- The withdrawals of `einsatz_abschliessen`, one for each active dispatch.
Their queries see the earlier ones only where something has flushed the session. -/
def zieheZurueck (flush : Bool) (now : Zeit) (akteur : Akteur) (site : IncidentSite) :
    List EinheitSiteDispatch → List EinheitSiteDispatch → Lage → Wirkung Unit
  | _, [], lage => (.ok (), lage)
  | stand, dispatch :: rest, lage =>
    match withdrawFromSite lage stand now akteur dispatch.einheitId site.majorIncidentId site.id
        (some "Einsatz abgeschlossen") (some dispatch.auftragsart) with
    | (.error fehler, lage) => (.error fehler, lage)
    | (.ok _, lage) => zieheZurueck flush now akteur site (if flush then lage.dispatches else stand) rest lage

/-- `einsatz_abschliessen`; `flush` says that the reporting timer of the site
has an interval, so that `has_active_resource` flushes the session. -/
def einsatzAbschliessen (flush : Bool) (now : Zeit) (akteur : Akteur) (siteId : Nat) (aktiveZurueckziehen : Bool) :
    Wirkung Unit :=
  match lage.site? siteId with
  | none => (.error (.wert "Einsatzstelle nicht gefunden"), lage)
  | some site =>
    let aktive := lage.dispatches.filter fun d => d.siteId == siteId && unbeendet d
    if aktive ≠ [] ∧ !aktiveZurueckziehen then
      let labels := aktive.map fun d => ((lage.einheit? d.einheitId).map (·.label)).getD ""
      (.error (.wert ("Aktive Aufträge: " ++ String.intercalate ", " labels)), lage)
    else
      match zieheZurueck (flush && !site.phase.geschlossen) now akteur site lage.dispatches aktive lage with
      | (.error fehler, lage) => (.error fehler, lage)
      | (.ok _, lage) => (.ok (), (setzeSitePhase lage siteId .erledigt none).2)

/-- `assign_to_sector` -/
def assignToSector (now : Zeit) (einheitId lageId sectorId : Nat) : Wirkung Unit :=
  match getEinheit lage einheitId lageId with
  | .error fehler => (.error fehler, lage)
  | .ok _ =>
    if (lage.sector? sectorId).any fun sector => sector.majorIncidentId == lageId then
      (.ok (), lage.setEinheit einheitId fun e =>
        imEinsatz now { e with sectorId := some sectorId, incidentSiteId := none })
    else (.error (.wert "Abschnitt nicht gefunden"), lage)

/-- `move_to_pool` -/
def moveToPool (now : Zeit) (einheitId lageId : Nat) : Wirkung Unit :=
  match getEinheit lage einheitId lageId with
  | .error fehler => (.error fehler, lage)
  | .ok _ =>
    (.ok (), lage.setEinheit einheitId fun e =>
      let e := { e with sectorId := none, incidentSiteId := none }
      if e.status = .imEinsatz then { e with status := .bereitgestellt, statusAt := some now } else e)

/-- `_pruefe_reaktivierung` -/
def pruefeReaktivierung (e : LageEinheit) : Except Fehler Unit :=
  if e.resourceType = .verband then .error (.wert "Aufgelöste Verbände können nicht reaktiviert werden")
  else if e.vehicleId.isSome ∧ lage.einheiten.any (fun andere => andere.lageId == e.lageId &&
      andere.vehicleId == e.vehicleId && andere.id != e.id && andere.status != .abgerueckt) then
    .error (.wert "Fahrzeug ist bereits wieder in der Lage")
  else .ok ()

/-- The timestamp column of `_STATUS_TIMESTAMP`. -/
def zeitstempel (now : Zeit) (status : RessourceStatus) (e : LageEinheit) : LageEinheit :=
  match status with
  | .angefordert => { e with requestedAt := some now }
  | .bereitgestellt => { e with arrivedAt := some now }
  | .imEinsatz => { e with committedAt := some now }
  | .abgerueckt => { e with releasedAt := some now }

/-- `set_status` -/
def setStatus (now : Zeit) (einheitId lageId : Nat) (status : RessourceStatus) : Wirkung Unit :=
  match getEinheit lage einheitId lageId with
  | .error fehler => (.error fehler, lage)
  | .ok e =>
    let reaktiviert := e.status = .abgerueckt ∧ status ≠ .abgerueckt
    match if reaktiviert then pruefeReaktivierung lage e else .ok () with
    | .error fehler => (.error fehler, lage)
    | .ok () =>
      let abschnitt := (e.incidentSiteId.bind lage.site?).bind (·.sectorId)
      (.ok (), lage.setEinheit einheitId fun e =>
        let e := if reaktiviert then { e with releasedAt := none } else e
        let e := zeitstempel now status { e with status, statusAt := some now }
        if status = .imEinsatz then { e with sectorId := e.sectorId.or abschnitt } else e)

/-- `reaktiviere_einheit` -/
def reaktiviereEinheit (now : Zeit) (einheitId lageId : Nat) : Wirkung Unit :=
  match getEinheit lage einheitId lageId with
  | .error fehler => (.error fehler, lage)
  | .ok e =>
    if e.status ≠ .abgerueckt then (.error (.wert "Einheit ist nicht abgerückt"), lage)
    else
      match pruefeReaktivierung lage e with
      | .error fehler => (.error fehler, lage)
      | .ok () =>
        (.ok (), lage.setEinheit einheitId fun e =>
          { e with
            status := .bereitgestellt
            statusAt := some now
            arrivedAt := some now
            releasedAt := none
            sectorId := none
            incidentSiteId := none })

end Einsatzcockpit.Gsl
