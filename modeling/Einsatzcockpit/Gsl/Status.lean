import Einsatzcockpit.Gsl.Disposition
import Einsatzcockpit.Lib.Run

namespace Einsatzcockpit.Gsl

def EinheitStatus.alle : List EinheitStatus :=
  [.zugewiesen, .bestaetigt, .anfahrt, .vorOrt, .inArbeit, .abgeschlossen, .nichtDurchfuehrbar]

def EinheitStatus.lies (wert : String) : Option EinheitStatus :=
  EinheitStatus.alle.find? fun status => status.wert == wert

/-- `ERLAUBTE_UEBERGAENGE` -/
def erlaubteUebergaenge : EinheitStatus → List EinheitStatus
  | .zugewiesen => [.bestaetigt, .anfahrt, .vorOrt, .inArbeit, .nichtDurchfuehrbar]
  | .bestaetigt => [.anfahrt, .vorOrt, .inArbeit, .nichtDurchfuehrbar]
  | .anfahrt => [.bestaetigt, .vorOrt, .inArbeit, .nichtDurchfuehrbar]
  | .vorOrt => [.bestaetigt, .inArbeit, .abgeschlossen, .nichtDurchfuehrbar]
  | .inArbeit => [.bestaetigt, .vorOrt, .abgeschlossen, .nichtDurchfuehrbar]
  | .abgeschlossen => []
  | .nichtDurchfuehrbar => []

/-- `ERLAUBTE_UEBERGAENGE_ERKUNDUNG` -/
def erlaubteUebergaengeErkundung : EinheitStatus → List EinheitStatus
  | .zugewiesen => [.bestaetigt, .anfahrt, .vorOrt, .abgeschlossen, .nichtDurchfuehrbar]
  | .bestaetigt => [.anfahrt, .vorOrt, .abgeschlossen, .nichtDurchfuehrbar]
  | .anfahrt => [.bestaetigt, .vorOrt, .abgeschlossen, .nichtDurchfuehrbar]
  | .vorOrt => [.bestaetigt, .abgeschlossen, .nichtDurchfuehrbar]
  | .inArbeit => []
  | .abgeschlossen => []
  | .nichtDurchfuehrbar => []

def uebergaenge : Auftragsart → EinheitStatus → List EinheitStatus
  | .erkundung => erlaubteUebergaengeErkundung
  | .abarbeitung => erlaubteUebergaenge

/-- The arguments of `setze_einheit_status`; `pruefung` is what
`erkundungsergebnis_pruefen` raises, if it is given and does. -/
structure Meldung where
  neuerStatus : String
  funk : Bool := false
  grund : Option String := none
  unterbrechen : Bool := false
  auftragVersion : Option Nat := none
  ausgangsstatus : Option String := none
  aktiverDispatchId : Option Nat := none
  pruefung : Option String := none

structure StatusErgebnis where
  geaendert : Bool
  dispatchId : Nat
  einheitStatus : EinheitStatus
  version : Nat
  phaseGeaendert : Bool := false
  unterbrochenDispatchId : Option Nat := none
  alleEinheitenFertig : Bool
  deriving DecidableEq

/-- `_alle_einheiten_fertig` -/
def alleEinheitenFertig (lage : Lage) (siteId : Nat) : Bool :=
  !lage.dispatches.any fun d => d.siteId == siteId && d.offen

def konflikt (code : String) (dispatchId siteId version : Option Nat) (angabe : Option String) : Fehler :=
  .konflikt code dispatchId siteId version angabe

/-- The guards of `setze_einheit_status` up to the transition, for a status
that differs from the old one. -/
def pruefeUebergang (site : IncidentSite) (dispatch : EinheitSiteDispatch) (meldung : Meldung) :
    Except Fehler EinheitStatus := do
  let alter := dispatch.einheitStatus
  if meldung.ausgangsstatus.any (· != alter.wert) then
    throw (konflikt "status_geaendert" dispatch.id none none alter.wert)
  let some neuer := EinheitStatus.lies meldung.neuerStatus | throw (konflikt "ungueltiger_uebergang" none none none none)
  if neuer ∉ uebergaenge dispatch.auftragsart alter then throw (konflikt "ungueltiger_uebergang" none none none none)
  if !meldung.funk ∧ dispatch.auftragsart = .abarbeitung ∧ (neuer = .inArbeit ∨ neuer = .abgeschlossen) ∧
      (site.phase = .eingegangen ∨ site.phase = .erkundung) then
    throw (konflikt "stelle_in_erkundung" none none none none)
  if neuer = .nichtDurchfuehrbar ∧ orNone (meldung.grund.map strip) = none then
    throw (.wert "Grund für nicht durchführbar erforderlich")
  if neuer = .abgeschlossen ∧ dispatch.auftragsart = .erkundung then
    if let some text := meldung.pruefung then throw (.pruefung text)
  return neuer

def unterbrochen (now : Zeit) (d : EinheitSiteDispatch) : EinheitSiteDispatch :=
  { d with
    einheitStatus := .bestaetigt
    bestaetigtAt := d.bestaetigtAt.or (some now)
    statusAt := some now
    letzteRueckmeldungAt := some now }

def gemeldet (now : Zeit) (neuer : EinheitStatus) (grund : Option String) (d : EinheitSiteDispatch) :
    EinheitSiteDispatch :=
  { d with
    einheitStatus := neuer
    statusAt := some now
    letzteRueckmeldungAt := some now
    bestaetigtAt := if neuer = .bestaetigt then d.bestaetigtAt.or (some now) else d.bestaetigtAt
    vorOrtAt := if neuer = .vorOrt then d.vorOrtAt.or (some now) else d.vorOrtAt
    beendetAt := if neuer.beendet then some now else d.beendetAt
    beendetGrund := if neuer.beendet then (orNone grund).map strip else d.beendetGrund }

def position (alter neuer : EinheitStatus) (site : IncidentSite) (e : LageEinheit) : LageEinheit :=
  if neuer.aktiv then { e with incidentSiteId := some site.id, sectorId := site.sectorId }
  else if (neuer.beendet || neuer == .bestaetigt) && alter.aktiv then verlaesst site.id e
  else e

def anderer (lage : Lage) (dispatch : EinheitSiteDispatch) : Option EinheitSiteDispatch :=
  lage.dispatches.find? fun d => d.einheitId == dispatch.einheitId && d.id != dispatch.id && d.aktiv

/-- The conflict with another active order, or the session with that order interrupted. -/
def unterbrich (now : Zeit) (lage : Lage) (dispatch : EinheitSiteDispatch) (neuer : EinheitStatus)
    (meldung : Meldung) : Except Fehler (Option Nat × Lage) :=
  if !neuer.aktiv then .ok (none, lage)
  else
    match anderer lage dispatch with
    | none => .ok (none, lage)
    | some a =>
      if !meldung.unterbrechen ∨ (meldung.aktiverDispatchId.any (· != a.id)) then
        .error (konflikt "aktiver_auftrag" a.id a.siteId none ((lage.site? a.siteId).map (·.bezeichnung)))
      else
        let lage := lage.setDispatch a.id (unterbrochen now)
        .ok (some a.id, lage.setEinheit dispatch.einheitId (verlaesst a.siteId))

/-- The writes of `setze_einheit_status` after its guards. -/
def melde (now : Zeit) (akteur : Akteur) (lage : Lage) (dispatch : EinheitSiteDispatch) (site : IncidentSite)
    (neuer : EinheitStatus) (grund : Option String) : Bool × Lage :=
  let lage := lage.setDispatch dispatch.id (gemeldet now neuer grund)
  let lage := lage.setEinheit dispatch.einheitId fun e =>
    imEinsatz now (position dispatch.einheitStatus neuer site e)
  let lage := if neuer.beendet then (zieheFertigeEinheitAb lage now akteur dispatch.id true).2 else lage
  aktualisiereSitePhase lage site.id

/-- `setze_einheit_status` for the unit of the dispatch. -/
def setzeEinheitStatus (lage : Lage) (now : Zeit) (akteur : Akteur) (dispatchId : Nat) (meldung : Meldung) :
    Wirkung StatusErgebnis :=
  match lage.dispatch? dispatchId with
  | none => (.error (.wert "Auftrag nicht gefunden"), lage)
  | some dispatch =>
    if dispatch.withdrawnAt.isSome then (.error (konflikt "auftrag_zurueckgezogen" none none none none), lage)
    else if meldung.auftragVersion.any (· != dispatch.version) then
      (.error (konflikt "auftrag_geaendert" dispatch.id none dispatch.version none), lage)
    else if meldung.neuerStatus = dispatch.einheitStatus.wert then
      (.ok {
        geaendert := false
        dispatchId
        einheitStatus := dispatch.einheitStatus
        version := dispatch.version
        alleEinheitenFertig := alleEinheitenFertig lage dispatch.siteId }, lage)
    else
      match lage.site? dispatch.siteId with
      | none => (.error (.wert "Einsatzstelle nicht gefunden"), lage)
      | some site =>
        match pruefeUebergang site dispatch meldung with
        | .error fehler => (.error fehler, lage)
        | .ok neuer =>
          match unterbrich now lage dispatch neuer meldung with
          | .error fehler => (.error fehler, lage)
          | .ok (unterbrochenDispatchId, lage) =>
            let (phaseGeaendert, lage) := melde now akteur lage dispatch site neuer meldung.grund
            (.ok {
              geaendert := true
              dispatchId
              einheitStatus := neuer
              version := dispatch.version
              phaseGeaendert
              unterbrochenDispatchId
              alleEinheitenFertig := alleEinheitenFertig lage site.id }, lage)

inductive Vorgang where
  | einheit (einheit : LageEinheit)
  | site (site : IncidentSite)
  | sector (sector : Sector)
  | disponiere (now : Zeit) (akteur : Akteur) (einheitId lageId siteId : Nat) (auftrag : Option String)
      (auftragsart : String) (reihenfolge : Option Int)
  | vorOrt (now : Zeit) (akteur : Akteur) (einheitId lageId siteId : Nat)
  | verlege (now : Zeit) (akteur : Akteur) (einheitId lageId siteId : Nat)
  | withdraw (now : Zeit) (akteur : Akteur) (einheitId lageId siteId : Nat) (grund : Option String)
      (auftragsart : Option Auftragsart)
  | status (now : Zeit) (akteur : Akteur) (dispatchId : Nat) (meldung : Meldung)
  | oeffne (now : Zeit) (dispatchId : Nat)
  | abziehen (now : Zeit) (akteur : Akteur) (dispatchId : Nat)
  | abschnitt (now : Zeit) (einheitId lageId sectorId : Nat)
  | pool (now : Zeit) (einheitId lageId : Nat)
  | ressource (now : Zeit) (einheitId lageId : Nat) (status : RessourceStatus)
  | reaktiviere (now : Zeit) (einheitId lageId : Nat)
  | phase (siteId : Nat) (neuePhase : SitePhase) (sortIndex : Option Int)
  | abschliessen (flush : Bool) (now : Zeit) (akteur : Akteur) (siteId : Nat) (aktiveZurueckziehen : Bool)
  | wiedereroeffnen (siteId : Nat)

def transaktion {α : Type} (lage : Lage) : Wirkung α → Lage
  | (.ok _, lage') => lage'
  | (.error _, _) => lage

def step (lage : Lage) : Vorgang → Lage
  | .einheit e =>
    { lage with einheiten := lage.einheiten ++ [{ e with id := lage.einheiten.length + 1, incidentSiteId := none }] }
  | .site site => { lage with sites := lage.sites ++ [{ site with id := lage.sites.length + 1 }] }
  | .sector sector => { lage with sectors := lage.sectors ++ [sector] }
  | .disponiere now akteur einheitId lageId siteId auftrag auftragsart reihenfolge =>
    transaktion lage (dispatchToSite lage now akteur einheitId lageId siteId auftrag auftragsart reihenfolge)
  | .vorOrt now akteur einheitId lageId siteId =>
    transaktion lage (setVorOrtAtSite lage now akteur einheitId lageId siteId)
  | .verlege now akteur einheitId lageId siteId =>
    transaktion lage (resolveVorOrtConflict lage now akteur einheitId lageId siteId)
  | .withdraw now akteur einheitId lageId siteId grund auftragsart =>
    transaktion lage (withdrawFromSite lage lage.dispatches now akteur einheitId lageId siteId grund auftragsart)
  | .status now akteur dispatchId meldung => transaktion lage (setzeEinheitStatus lage now akteur dispatchId meldung)
  | .oeffne now dispatchId => transaktion lage (oeffneAuftragWieder lage now dispatchId)
  | .abziehen now akteur dispatchId => transaktion lage (zieheFertigeEinheitAb lage now akteur dispatchId false)
  | .abschnitt now einheitId lageId sectorId => transaktion lage (assignToSector lage now einheitId lageId sectorId)
  | .pool now einheitId lageId => transaktion lage (moveToPool lage now einheitId lageId)
  | .ressource now einheitId lageId status => transaktion lage (setStatus lage now einheitId lageId status)
  | .reaktiviere now einheitId lageId => transaktion lage (reaktiviereEinheit lage now einheitId lageId)
  | .phase siteId neuePhase sortIndex => (setzeSitePhase lage siteId neuePhase sortIndex).2
  | .abschliessen flush now akteur siteId aktiveZurueckziehen =>
    transaktion lage (einsatzAbschliessen lage flush now akteur siteId aktiveZurueckziehen)
  | .wiedereroeffnen siteId => transaktion lage (einsatzWiedereroeffnen lage siteId)

end Einsatzcockpit.Gsl
