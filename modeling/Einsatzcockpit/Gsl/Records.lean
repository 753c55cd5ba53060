import Einsatzcockpit.Lib.Table
import Einsatzcockpit.Basis

namespace Einsatzcockpit.Gsl

inductive EinheitStatus where
  | zugewiesen | bestaetigt | anfahrt | vorOrt | inArbeit | abgeschlossen | nichtDurchfuehrbar
  deriving DecidableEq

def EinheitStatus.wert : EinheitStatus → String
  | zugewiesen => "zugewiesen"
  | bestaetigt => "bestaetigt"
  | anfahrt => "anfahrt"
  | vorOrt => "vor_ort"
  | inArbeit => "in_arbeit"
  | abgeschlossen => "abgeschlossen"
  | nichtDurchfuehrbar => "nicht_durchfuehrbar"

/-- `EINHEIT_STATUS_AKTIV` -/
def EinheitStatus.aktiv : EinheitStatus → Bool
  | anfahrt | vorOrt | inArbeit => true
  | _ => false

/-- `EINHEIT_STATUS_BEENDET` -/
def EinheitStatus.beendet : EinheitStatus → Bool
  | abgeschlossen | nichtDurchfuehrbar => true
  | _ => false

inductive Auftragsart where
  | erkundung | abarbeitung
  deriving DecidableEq

inductive SitePhase where
  | eingegangen | erkundung | bewertet | disponiert | inArbeit | fertigGemeldet | erledigt | abgebrochen
  deriving DecidableEq

/-- `{SitePhase.erledigt, SitePhase.abgebrochen}` -/
def SitePhase.geschlossen : SitePhase → Bool
  | erledigt | abgebrochen => true
  | _ => false

inductive RessourceStatus where
  | angefordert | bereitgestellt | imEinsatz | abgerueckt
  deriving DecidableEq

inductive ResourceType where
  | fahrzeug | externe | material | verband
  deriving DecidableEq

/-- A row of `lage_einheit`. -/
structure LageEinheit where
  id : Nat
  lageId : Nat
  label : String
  resourceType : ResourceType := .fahrzeug
  vehicleId : Option Nat := none
  verbandId : Option Nat := none
  status : RessourceStatus := .bereitgestellt
  statusAt : Option Zeit := none
  requestedAt : Option Zeit := none
  arrivedAt : Option Zeit := none
  committedAt : Option Zeit := none
  releasedAt : Option Zeit := none
  sectorId : Option Nat := none
  incidentSiteId : Option Nat := none

/-- A row of `incident_site`. -/
structure IncidentSite where
  id : Nat
  majorIncidentId : Nat
  bezeichnung : String
  phase : SitePhase := .eingegangen
  sectorId : Option Nat := none
  sortIndex : Int := 0

structure Sector where
  id : Nat
  majorIncidentId : Nat

/-- A row of `einheit_site_dispatch`. -/
structure EinheitSiteDispatch where
  id : Nat
  einheitId : Nat
  siteId : Nat
  dispatchedAt : Zeit
  dispatchedBy : Option Nat := none
  authorName : Option String := none
  auftrag : Option String := none
  auftragsart : Auftragsart := .abarbeitung
  reihenfolge : Option Int := none
  einheitStatus : EinheitStatus := .zugewiesen
  statusAt : Option Zeit := none
  bestaetigtAt : Option Zeit := none
  vorOrtAt : Option Zeit := none
  letzteRueckmeldungAt : Option Zeit := none
  beendetAt : Option Zeit := none
  beendetGrund : Option String := none
  version : Nat := 1
  geaendertAt : Option Zeit := none
  withdrawnAt : Option Zeit := none
  withdrawnBy : Option Nat := none
  withdrawnAuthor : Option String := none
  withdrawnGrund : Option String := none
  abgezogenAt : Option Zeit := none
  abgezogenBy : Option Nat := none
  abgezogenAuthor : Option String := none
  deriving DecidableEq

namespace EinheitSiteDispatch

/-- `dispatch_aktiv_filter`: neither withdrawn nor ended. -/
def offen (dispatch : EinheitSiteDispatch) : Bool :=
  dispatch.withdrawnAt.isNone && dispatch.beendetAt.isNone

def aktiv (dispatch : EinheitSiteDispatch) : Bool :=
  dispatch.offen && dispatch.einheitStatus.aktiv

end EinheitSiteDispatch

structure Lage where
  einheiten : List LageEinheit := []
  sites : List IncidentSite := []
  sectors : List Sector := []
  dispatches : List EinheitSiteDispatch := []

namespace Lage

variable (lage : Lage)

def einheit? (id : Nat) : Option LageEinheit := lage.einheiten.find? fun einheit => einheit.id == id

def site? (id : Nat) : Option IncidentSite := lage.sites.find? fun site => site.id == id

def sector? (id : Nat) : Option Sector := lage.sectors.find? fun sector => sector.id == id

def dispatch? (id : Nat) : Option EinheitSiteDispatch := lage.dispatches.find? fun dispatch => dispatch.id == id

def setEinheit (id : Nat) (werte : LageEinheit → LageEinheit) : Lage :=
  { lage with einheiten := Relational.update (fun einheit => einheit.id == id) werte lage.einheiten }

def setSite (id : Nat) (werte : IncidentSite → IncidentSite) : Lage :=
  { lage with sites := Relational.update (fun site => site.id == id) werte lage.sites }

def setDispatch (id : Nat) (werte : EinheitSiteDispatch → EinheitSiteDispatch) : Lage :=
  { lage with dispatches := Relational.update (fun dispatch => dispatch.id == id) werte lage.dispatches }

def naechsteId : Nat := lage.dispatches.length + 1

def addDispatch (dispatch : EinheitSiteDispatch) : Lage :=
  { lage with dispatches := lage.dispatches ++ [dispatch] }

end Lage

/-- `ValueError` with its text, `EinheitKonflikt` with its code and details,
or what a check that the caller passed in has raised. -/
inductive Fehler where
  | wert (text : String)
  | konflikt (code : String) (dispatchId siteId version : Option Nat) (angabe : Option String)
  | pruefung (text : String)
  deriving DecidableEq

abbrev Wirkung (α : Type) := Except Fehler α × Lage

/-- Who acts: `user_id` and `author_name`. -/
structure Akteur where
  userId : Option Nat := none
  authorName : Option String := none

end Einsatzcockpit.Gsl

namespace Einsatzcockpit.Gsl

def unbeendet (dispatch : EinheitSiteDispatch) : Bool :=
  dispatch.withdrawnAt.isNone && !dispatch.einheitStatus.beendet

/-- The part of `_zielphase` that looks at the reconnaissance orders. -/
def zielphaseErkundung (erkundungen : List EinheitSiteDispatch) : Option SitePhase :=
  if erkundungen.any unbeendet then some .erkundung
  else if erkundungen ≠ [] ∧ erkundungen.all fun d => d.withdrawnAt.isSome || d.einheitStatus.beendet then
    some .bewertet
  else none

/-- `_zielphase` -/
def zielphase (dispatches : List EinheitSiteDispatch) (aktuellePhase : Option SitePhase) : Option SitePhase :=
  let abarbeitungen := dispatches.filter (·.auftragsart == .abarbeitung)
  let erkundungen := dispatches.filter (·.auftragsart == .erkundung)
  let aktiveA := abarbeitungen.filter unbeendet
  if aktiveA.any fun d => d.einheitStatus == .vorOrt || d.einheitStatus == .inArbeit then some .inArbeit
  else if aktiveA ≠ [] then
    -- work in progress stays in progress until every order is done
    some (if aktuellePhase = some .inArbeit then .inArbeit else .disponiert)
  else
    let nichtZurueckgezogeneA := abarbeitungen.filter (·.withdrawnAt.isNone)
    if nichtZurueckgezogeneA ≠ [] ∧ nichtZurueckgezogeneA.all (·.einheitStatus.beendet) then some .fertigGemeldet
    else if nichtZurueckgezogeneA = [] ∧ abarbeitungen ≠ [] ∧ ¬ erkundungen.any unbeendet then
      if erkundungen ≠ [] then some .bewertet else none
    else zielphaseErkundung erkundungen

variable (lage : Lage)

/-- `setze_site_phase`: whether the phase has changed. -/
def setzeSitePhase (siteId : Nat) (neuePhase : SitePhase) (sortIndex : Option Int) : Bool × Lage :=
  match lage.site? siteId with
  | none => (false, lage)
  | some site =>
    let lage := lage.setSite siteId fun site => { site with sortIndex := sortIndex.getD site.sortIndex }
    if site.phase = neuePhase then (false, lage)
    else (true, lage.setSite siteId fun site => { site with phase := neuePhase })

/-- `aktualisiere_site_phase` -/
def aktualisiereSitePhase (siteId : Nat) : Bool × Lage :=
  match lage.site? siteId with
  | none => (false, lage)
  | some site =>
    if site.phase.geschlossen then (false, lage)
    else
      match zielphase (lage.dispatches.filter (·.siteId == siteId)) (some site.phase) with
      | none => (false, lage)
      | some ziel => setzeSitePhase lage siteId ziel none

/-- `einsatz_wiedereroeffnen` -/
def einsatzWiedereroeffnen (siteId : Nat) : Wirkung Unit :=
  match lage.site? siteId with
  | none => (.error (.wert "Einsatzstelle nicht gefunden"), lage)
  | some site =>
    if !site.phase.geschlossen then (.error (.wert "Einsatzstelle ist nicht abgeschlossen"), lage)
    else
      let ziel := (zielphase (lage.dispatches.filter (·.siteId == siteId)) none).getD .bewertet
      (.ok (), (setzeSitePhase lage siteId ziel none).2)

end Einsatzcockpit.Gsl
