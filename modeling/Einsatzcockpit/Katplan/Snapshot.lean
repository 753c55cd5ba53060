import Einsatzcockpit.Katplan.Wiedervorlage
import Mathlib.Data.Prod.Lex
import Mathlib.Data.String.Basic

/-! The content of a plan, its snapshot, and the checksum that a release compares,
`erstelle_snapshot` and `freigeben` of `katplan_freigabe_service.py`. -/

namespace Einsatzcockpit.Katplan.Freigabe

section Zeilen

structure KatplanAbschnitt where
  id : Nat
  parentId : Option Nat
  titel : String
  beschreibungHtml : Option String
  sort : Int
  deriving DecidableEq

structure KatplanPhase where
  id : Nat
  name : String
  beschreibung : Option String
  ausloeser : Option String
  farbe : Option String
  sort : Int
  deriving DecidableEq

/-- `_link_struktur`: what of a link is content. -/
structure LinkStruktur where
  zielTyp : String
  zielId : Nat
  rolle : String
  hinweis : String
  deriving DecidableEq

structure LinkAnsicht where
  titel : String
  untertitel : String
  telefone : List String
  deriving DecidableEq

/-- `link_snapshot` -/
structure LinkSnapshot extends LinkStruktur where
  snapshot : LinkAnsicht
  deriving DecidableEq

structure KatplanLink extends LinkStruktur where
  id : Nat
  elementId : Option Nat
  sort : Int

/-- `HASH_FELDER` -/
structure AnhangKern where
  uuid : String
  art : String
  beschriftung : Option String
  url : Option String
  objektDokumentId : Option Nat
  seiten : Option Nat
  vertraulich : Bool
  sort : Int
  pruefdatum : Option Datum
  gueltigBis : Option Datum
  pruefintervallMonate : Option Nat
  zustaendigUserId : Option Nat
  deriving DecidableEq

/-- `anhang_snapshot`, the columns `SNAPSHOT_FELDER`. -/
structure AnhangSnapshot extends AnhangKern where
  dateiname : Option String
  mime : Option String
  deriving DecidableEq

structure KopfAnhang extends AnhangSnapshot where
  abschnittId : Option Nat
  deriving DecidableEq

structure KatplanAnhang extends KopfAnhang where
  id : Nat
  elementId : Option Nat

structure QuelleKern where
  id : Nat
  versionsnummer : Nat
  titel : String
  deriving DecidableEq

structure Quelle extends QuelleKern where
  uuid : String
  seitenzahl : Option Nat
  herausgeber : Option String
  stand : Option Datum
  deriving DecidableEq

structure Relation where
  zuElementUuid : String
  art : String
  hinweis : String
  deriving DecidableEq

/-- The columns `gsl_…` of an element. -/
structure Gsl where
  gslAuftragsart : Option String
  gslDauerMin : Option Nat
  gslPrioritaet : Option Int
  gslRessourcentypenJson : Option String
  gslVoraussetzungen : Option String
  gslVorlage : Bool
  deriving DecidableEq

structure Akteur where
  schluessel : String
  bezeichnung : String
  farbe : String
  iconName : Option String
  sort : Int
  deriving DecidableEq

@[ext] structure ElementSpalten where
  abschnittId : Option Nat
  kennung : Option String
  typ : String
  titel : String
  beschreibungHtml : Option String
  datenJson : Option String
  prioritaet : Int
  akteureJson : Option String
  tagsJson : Option String
  gueltigBis : Option Datum
  pruefenAm : Option Datum
  vertraulich : Bool
  strasse : Option String
  hausnummer : Option String
  plz : Option String
  ort : Option String
  lat : Option Rat
  lng : Option Rat
  geometryJson : Option String
  geoStatus : String
  herkunft : String
  quelleDokumentId : Option Nat
  quelleSeiten : Option String
  sort : Int
  deriving DecidableEq

structure KatplanElement extends ElementSpalten where
  id : Nat
  uuid : String
  suchtext : Option String
  gsl : Gsl

@[ext] structure PlanSpalten where
  uuid : String
  planart : String
  titel : String
  beschreibungHtml : Option String
  geltungsbereich : Option String
  verantwortlicheStelle : Option String
  verantwortlichKontaktId : Option Nat
  kategorie : Option String
  unterkategorie : Option String
  kurzbeschreibung : Option String
  schlagwoerter : List String
  gefahrenarten : List String
  deriving DecidableEq

/-- The rows of one plan: its own, and those of the tables that refer to it. -/
structure Inhalt where
  plan : PlanSpalten
  wiedervorlageAm : Option Datum
  abschnitte : List KatplanAbschnitt
  phasen : List KatplanPhase
  links : List KatplanLink
  anhaenge : List KatplanAnhang
  quellen : List Quelle
  elemente : List KatplanElement
  relationen : List (Nat × Relation)
  elementPhasen : List (Nat × Nat)
  akteure : List Akteur
  abschnitteNodup : (abschnitte.map (·.id)).Nodup
  phasenNodup : (phasen.map (·.id)).Nodup
  elementeNodup : (elemente.map (·.uuid)).Nodup

end Zeilen

section Schnappschuss

/-- The header, with the links, attachments and sources in one form or another. -/
structure Kopf (L A Q : Type) where
  plan : PlanSpalten
  abschnitte : List KatplanAbschnitt
  phasen : List KatplanPhase
  links : List L
  anhaenge : List A
  quellen : List Q
  deriving DecidableEq

structure SnapshotKopf extends Kopf LinkSnapshot KopfAnhang Quelle where
  wiedervorlageAm : Option Datum
  akteure : List Akteur

/-- An element, with the links and attachments in one form or another. -/
structure Element (L A : Type) where
  elementUuid : String
  spalten : ElementSpalten
  phasen : List Nat
  relationen : List Relation
  links : List L
  anhaenge : List A
  gsl : Gsl
  deriving DecidableEq

structure KatplanVersionElement extends Element LinkSnapshot AnhangSnapshot where
  suchtext : Option String

def KatplanAbschnitt.ordnung (a : KatplanAbschnitt) : Int ×ₗ Nat := toLex (a.sort, a.id)

def KatplanPhase.ordnung (p : KatplanPhase) : Int ×ₗ Nat := toLex (p.sort, p.id)

def Element.ordnung {L A : Type} (e : Element L A) : Int ×ₗ String := toLex (e.spalten.sort, e.elementUuid)

/-- A snapshot has its sections, phases and elements in order, and none of them twice. -/
structure Snapshot where
  kopf : SnapshotKopf
  elemente : List KatplanVersionElement
  abschnitteOrdnung : kopf.abschnitte.Pairwise (·.ordnung ≤ ·.ordnung)
  abschnitteNodup : (kopf.abschnitte.map (·.id)).Nodup
  phasenOrdnung : kopf.phasen.Pairwise (·.ordnung ≤ ·.ordnung)
  phasenNodup : (kopf.phasen.map (·.id)).Nodup
  elementeOrdnung : elemente.Pairwise (·.ordnung ≤ ·.ordnung)
  elementeNodup : (elemente.map (·.elementUuid)).Nodup

variable {α κ : Type} [LinearOrder κ]

/-- `ORDER BY` -/
def sortiert (ordnung : α → κ) (zeilen : List α) : List α := zeilen.mergeSort fun a b => ordnung a ≤ ordnung b

theorem sortiert_perm (ordnung : α → κ) (zeilen : List α) : (sortiert ordnung zeilen).Perm zeilen := List.mergeSort_perm _ _

theorem sortiert_pairwise (ordnung : α → κ) (zeilen : List α) :
    (sortiert ordnung zeilen).Pairwise fun a b => ordnung a ≤ ordnung b := by
  have sorted : (sortiert ordnung zeilen).Pairwise fun a b => decide (ordnung a ≤ ordnung b) = true := by
    refine List.pairwise_mergeSort (fun a b c first second => ?_) (fun a b => ?_) zeilen
    · exact decide_eq_true ((of_decide_eq_true first).trans (of_decide_eq_true second))
    · rw [Bool.or_eq_true, decide_eq_true_eq, decide_eq_true_eq]
      exact le_total _ _
  exact sorted.imp of_decide_eq_true

variable (ansicht : KatplanLink → LinkAnsicht) (inhalt : Inhalt)

def linkSnapshots (elementId : Option Nat) : List LinkSnapshot :=
  (sortiert (fun l => toLex (l.sort, l.id)) (inhalt.links.filter (·.elementId = elementId))).map fun l =>
    { l with snapshot := ansicht l }

def anhangZeilen (elementId : Option Nat) : List KopfAnhang :=
  ((sortiert (fun a => toLex (a.sort, a.id)) inhalt.anhaenge).filter (·.elementId = elementId)).map (·.toKopfAnhang)

def versionElement (element : KatplanElement) : KatplanVersionElement where
  elementUuid := element.uuid
  spalten := element.toElementSpalten
  phasen := sortiert id ((inhalt.elementPhasen.filter fun z => z.1 = element.id ∧ z.2 ∈ inhalt.phasen.map (·.id)).map (·.2))
  relationen := (sortiert (fun r => toLex (r.2.zuElementUuid, r.2.art)) (inhalt.relationen.filter (·.1 = element.id))).map (·.2)
  links := linkSnapshots ansicht inhalt (some element.id)
  anhaenge := (anhangZeilen inhalt (some element.id)).map (·.toAnhangSnapshot)
  gsl := element.gsl
  suchtext := element.suchtext

def erstelleSnapshot : Snapshot where
  kopf := {
    plan := inhalt.plan
    abschnitte := sortiert (·.ordnung) inhalt.abschnitte
    phasen := sortiert (·.ordnung) inhalt.phasen
    links := linkSnapshots ansicht inhalt none
    anhaenge := anhangZeilen inhalt none
    quellen := sortiert (·.id) inhalt.quellen
    wiedervorlageAm := inhalt.wiedervorlageAm
    akteure := inhalt.akteure }
  elemente := (sortiert (fun e => toLex (e.sort, e.uuid)) inhalt.elemente).map (versionElement ansicht inhalt)
  abschnitteOrdnung := sortiert_pairwise _ _
  abschnitteNodup := ((sortiert_perm _ _).map _).nodup_iff.mpr inhalt.abschnitteNodup
  phasenOrdnung := sortiert_pairwise _ _
  phasenNodup := ((sortiert_perm _ _).map _).nodup_iff.mpr inhalt.phasenNodup
  elementeOrdnung := List.pairwise_map.mpr (sortiert_pairwise (fun e : KatplanElement => toLex (e.sort, e.uuid)) inhalt.elemente)
  elementeNodup := by
    rw [List.map_map]
    exact ((sortiert_perm _ _).map _).nodup_iff.mpr inhalt.elementeNodup

end Schnappschuss

section Pruefsumme

/-- What the checksum is taken of: the header without the review date and the catalogue of
actors, the elements without their search text, and links, attachments and sources as far
as they are content. -/
abbrev HashDaten := Kopf LinkStruktur AnhangKern QuelleKern × List (Element LinkStruktur AnhangKern)

def SnapshotKopf.hashKopf (kopf : SnapshotKopf) : Kopf LinkStruktur AnhangKern QuelleKern where
  plan := kopf.plan
  abschnitte := kopf.abschnitte
  phasen := kopf.phasen
  links := kopf.links.map (·.toLinkStruktur)
  anhaenge := kopf.anhaenge.map (·.toAnhangKern)
  quellen := kopf.quellen.map (·.toQuelleKern)

def KatplanVersionElement.hashElement (e : KatplanVersionElement) : Element LinkStruktur AnhangKern where
  elementUuid := e.elementUuid
  spalten := e.spalten
  phasen := e.phasen
  relationen := e.relationen
  links := e.links.map (·.toLinkStruktur)
  anhaenge := e.anhaenge.map (·.toAnhangKern)
  gsl := e.gsl

def Snapshot.hashDaten (snapshot : Snapshot) : HashDaten := (snapshot.kopf.hashKopf, snapshot.elemente.map (·.hashElement))

variable {H : Type}

/-- A released version. `pruefsumme` is SHA-256 of the data's canonical JSON. -/
structure KatplanVersion (pruefsumme : HashDaten → H) where
  versionsnummer : Nat
  snapshot : Snapshot
  inhaltHash : H
  vonInhalt : inhaltHash = pruefsumme snapshot.hashDaten

variable {pruefsumme : HashDaten → H}

def neueVersion (pruefsumme : HashDaten → H) (versionsnummer : Nat) (snapshot : Snapshot) : KatplanVersion pruefsumme where
  versionsnummer := versionsnummer
  snapshot := snapshot
  inhaltHash := pruefsumme snapshot.hashDaten
  vonInhalt := rfl

def fassung [DecidableEq H] (aktuell : Option (KatplanVersion pruefsumme)) (snapshot : Snapshot) (versionId : Nat) : Fassung where
  anzahlElemente := snapshot.elemente.length
  unveraendertSeit := (aktuell.filter fun v => v.inhaltHash = pruefsumme snapshot.hashDaten).map (·.versionsnummer)
  versionId := versionId

end Pruefsumme

end Einsatzcockpit.Katplan.Freigabe
