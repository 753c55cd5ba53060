import Einsatzcockpit.Katplan.Snapshot

/-! The comparison of versions, `vergleiche_versionen`, and that it agrees with the release's own. -/

namespace Einsatzcockpit.Katplan.Freigabe

section Felder

variable (J : Type)

inductive Wert where
  | text (wert : Option String)
  | zahl (wert : Option Int)
  | bruch (wert : Option Rat)
  | wahr (wert : Bool)
  | datum (wert : Option Datum)
  | texte (werte : List String)
  | json (wert : J)
  | links (werte : List LinkStruktur)
  | anhaenge (werte : List (AnhangKern × Option Nat))
  | quellen (werte : List Quelle)
  | akteure (werte : List Akteur)
  | relationen (werte : List Relation)
  | phasen (werte : List Nat)
  | gsl (wert : Gsl)
  deriving DecidableEq

/-- How texts are read: the words of an HTML text, as `_HTMLText` finds them, and the value of
a JSON text, up to the equality of values. -/
structure Lesart where
  htmlText : String → String
  loads : String → J
  null : J

structure Feld (α : Type) where
  name : String
  liest : α → Wert J

structure Aenderung where
  feld : String
  alt : Wert J
  neu : Wert J
  label : Option String := none

variable {J}

/-- `_text` -/
def Lesart.text (lesart : Lesart J) (html : Option String) : Wert J := .text (some (lesart.htmlText (html.getD "")))

/-- `json.loads(a) if a else None` -/
def Lesart.json (lesart : Lesart J) (wert : Option String) : Wert J :=
  match wert with
  | none => .json lesart.null
  | some text => .json (if text = "" then lesart.null else lesart.loads text)

def label (feld : String) : Option String :=
  if feld = "relationen_json" then some "Beziehungen"
  else if feld = "links" ∨ feld = "links_json" then some "Verknüpfungen"
  else if feld = "anhaenge" ∨ feld = "anhaenge_json" then some "Anhänge"
  else none

def aenderungen [DecidableEq J] {α : Type} (felder : List (Feld J α)) (alt neu : α) : List (Aenderung J) :=
  felder.filterMap fun f =>
    if f.liest alt ≠ f.liest neu then some { feld := f.name, alt := f.liest alt, neu := f.liest neu, label := label f.name } else none

theorem aenderungen_eq_nil [DecidableEq J] {α : Type} {felder : List (Feld J α)} {alt neu : α} :
    aenderungen felder alt neu = [] ↔ ∀ f ∈ felder, f.liest alt = f.liest neu := by
  rw [aenderungen, List.filterMap_eq_nil_iff]
  refine forall₂_congr fun f _ => ?_
  split
  · next differ => exact iff_of_false (Option.some_ne_none _) differ
  · next same => exact iff_of_true rfl (not_not.mp same)

variable (lesart : Lesart J)

def abschnittFelder : List (Feld J KatplanAbschnitt) := [
  ⟨"beschreibung_html", fun a => lesart.text a.beschreibungHtml⟩,
  ⟨"id", fun a => .zahl (some a.id)⟩,
  ⟨"parent_id", fun a => .zahl (a.parentId.map (↑))⟩,
  ⟨"sort", fun a => .zahl (some a.sort)⟩,
  ⟨"titel", fun a => .text (some a.titel)⟩]

def phaseFelder : List (Feld J KatplanPhase) := [
  ⟨"ausloeser", fun p => .text p.ausloeser⟩,
  ⟨"beschreibung", fun p => .text p.beschreibung⟩,
  ⟨"farbe", fun p => .text p.farbe⟩,
  ⟨"id", fun p => .zahl (some p.id)⟩,
  ⟨"name", fun p => .text (some p.name)⟩,
  ⟨"sort", fun p => .zahl (some p.sort)⟩]

/-- The attachments as they are compared, but for those that are to be hidden. -/
def anhangStruktur (verborgen : List String) (anhaenge : List KopfAnhang) : List (AnhangKern × Option Nat) :=
  (anhaenge.filter (·.uuid ∉ verborgen)).map fun a => (a.toAnhangKern, a.abschnittId)

def kopfFelder (verborgen : List String) : List (Feld J SnapshotKopf) := [
  ⟨"akteure", fun k => .akteure k.akteure⟩,
  ⟨"anhaenge", fun k => .anhaenge (anhangStruktur verborgen k.anhaenge)⟩,
  ⟨"beschreibung_html", fun k => lesart.text k.plan.beschreibungHtml⟩,
  ⟨"gefahrenarten", fun k => .texte k.plan.gefahrenarten⟩,
  ⟨"geltungsbereich", fun k => .text k.plan.geltungsbereich⟩,
  ⟨"kategorie", fun k => .text k.plan.kategorie⟩,
  ⟨"kurzbeschreibung", fun k => .text k.plan.kurzbeschreibung⟩,
  ⟨"links", fun k => .links (k.links.map (·.toLinkStruktur))⟩,
  ⟨"planart", fun k => .text (some k.plan.planart)⟩,
  ⟨"quellen", fun k => .quellen k.quellen⟩,
  ⟨"schlagwoerter", fun k => .texte k.plan.schlagwoerter⟩,
  ⟨"titel", fun k => .text (some k.plan.titel)⟩,
  ⟨"unterkategorie", fun k => .text k.plan.unterkategorie⟩,
  ⟨"uuid", fun k => .text (some k.plan.uuid)⟩,
  ⟨"verantwortlich_kontakt_id", fun k => .zahl (k.plan.verantwortlichKontaktId.map (↑))⟩,
  ⟨"verantwortliche_stelle", fun k => .text k.plan.verantwortlicheStelle⟩,
  ⟨"wiedervorlage_am", fun k => .datum k.wiedervorlageAm⟩]

def elementFelder (verborgen : List String) : List (Feld J KatplanVersionElement) := [
  ⟨"abschnitt_id", fun e => .zahl (e.spalten.abschnittId.map (↑))⟩,
  ⟨"akteure_json", fun e => lesart.json e.spalten.akteureJson⟩,
  ⟨"anhaenge_json", fun e => .anhaenge (anhangStruktur verborgen (e.anhaenge.map fun a => { a with abschnittId := none }))⟩,
  ⟨"beschreibung_html", fun e => lesart.text e.spalten.beschreibungHtml⟩,
  ⟨"daten_json", fun e => lesart.json e.spalten.datenJson⟩,
  ⟨"geo_status", fun e => .text (some e.spalten.geoStatus)⟩,
  ⟨"geometry_json", fun e => lesart.json e.spalten.geometryJson⟩,
  ⟨"gsl_json", fun e => .gsl e.gsl⟩,
  ⟨"gueltig_bis", fun e => .datum e.spalten.gueltigBis⟩,
  ⟨"hausnummer", fun e => .text e.spalten.hausnummer⟩,
  ⟨"herkunft", fun e => .text (some e.spalten.herkunft)⟩,
  ⟨"kennung", fun e => .text e.spalten.kennung⟩,
  ⟨"lat", fun e => .bruch e.spalten.lat⟩,
  ⟨"links_json", fun e => .links (e.links.map (·.toLinkStruktur))⟩,
  ⟨"lng", fun e => .bruch e.spalten.lng⟩,
  ⟨"ort", fun e => .text e.spalten.ort⟩,
  ⟨"phasen_json", fun e => .phasen e.phasen⟩,
  ⟨"plz", fun e => .text e.spalten.plz⟩,
  ⟨"prioritaet", fun e => .zahl (some e.spalten.prioritaet)⟩,
  ⟨"pruefen_am", fun e => .datum e.spalten.pruefenAm⟩,
  ⟨"quelle_dokument_id", fun e => .zahl (e.spalten.quelleDokumentId.map (↑))⟩,
  ⟨"quelle_seiten", fun e => .text e.spalten.quelleSeiten⟩,
  ⟨"relationen_json", fun e => .relationen e.relationen⟩,
  ⟨"sort", fun e => .zahl (some e.spalten.sort)⟩,
  ⟨"strasse", fun e => .text e.spalten.strasse⟩,
  ⟨"tags_json", fun e => lesart.json e.spalten.tagsJson⟩,
  ⟨"titel", fun e => .text (some e.spalten.titel)⟩,
  ⟨"typ", fun e => .text (some e.spalten.typ)⟩,
  ⟨"vertraulich", fun e => .wahr e.spalten.vertraulich⟩]

end Felder

section Gegenueberstellung

variable {J : Type} [DecidableEq J] {α κ : Type} [DecidableEq κ]

/-- What of two lists is in one of them alone, and what has changed. -/
structure Gegenueber (J α : Type) where
  hinzugefuegt : List α
  entfernt : List α
  geaendert : List (String × List (Aenderung J))

def gegenueber (schluessel : α → κ) (name : κ → String) (felder : List (Feld J α)) (alt neu : List α) : Gegenueber J α where
  hinzugefuegt := sortiert (fun n => name (schluessel n)) (neu.filter fun n => schluessel n ∉ alt.map schluessel)
  entfernt := sortiert (fun a => name (schluessel a)) (alt.filter fun a => schluessel a ∉ neu.map schluessel)
  geaendert := (sortiert (fun a => name (schluessel a)) alt).filterMap fun a =>
    ((neu.find? fun n => schluessel n = schluessel a).map (aenderungen felder a)).bind fun diff =>
      if diff.isEmpty then none else some (name (schluessel a), diff)

def Gegenueber.Leer (g : Gegenueber J α) : Prop := g.hinzugefuegt = [] ∧ g.entfernt = [] ∧ g.geaendert = []

theorem sortiert_eq_nil {ο : Type} [LinearOrder ο] {ordnung : α → ο} {zeilen : List α} : sortiert ordnung zeilen = [] ↔ zeilen = [] := by
  rw [← List.length_eq_zero_iff, (sortiert_perm ordnung zeilen).length_eq, List.length_eq_zero_iff]

/-- Nothing is reported if both lists have the same keys, and the rows of one key agree in all fields. -/
theorem gegenueber_leer {schluessel : α → κ} {name : κ → String} {felder : List (Feld J α)} {alt neu : List α}
    (eindeutig : (neu.map schluessel).Nodup) : (gegenueber schluessel name felder alt neu).Leer ↔
      (∀ k, k ∈ alt.map schluessel ↔ k ∈ neu.map schluessel) ∧
        ∀ a ∈ alt, ∀ n ∈ neu, schluessel n = schluessel a → aenderungen felder a n = [] := by
  have unchanged : (gegenueber schluessel name felder alt neu).geaendert = [] ↔
      ∀ a ∈ alt, ∀ n ∈ neu, schluessel n = schluessel a → aenderungen felder a n = [] := by
    rw [gegenueber, List.filterMap_eq_nil_iff]
    constructor
    · intro none_ a isA n isN same
      have found : neu.find? (fun n => schluessel n = schluessel a) = some n := by
        rw [List.find?_eq_some_iff_append]
        obtain ⟨first, rest, rfl⟩ := List.append_of_mem isN
        refine ⟨decide_eq_true same, first, rest, rfl, fun other isOther => ?_⟩
        rw [List.map_append, List.map_cons, List.nodup_append] at eindeutig
        have apart := eindeutig.2.2 _ (List.mem_map_of_mem isOther) _ (List.mem_cons_self ..)
        rw [same] at apart
        simpa using apart
      have nothing := none_ a ((sortiert_perm _ _).mem_iff.mpr isA)
      rw [found, Option.map_some, Option.bind_some] at nothing
      split at nothing
      · next empty => exact List.isEmpty_iff.mp empty
      · cases nothing
    · intro same a isA
      cases found : neu.find? fun n => schluessel n = schluessel a with
      | none => rfl
      | some n =>
        have key : schluessel n = schluessel a := by simpa using List.find?_some found
        have none_ := same a ((sortiert_perm _ _).mem_iff.mp isA) n (List.mem_of_find?_eq_some found) key
        rw [Option.map_some, Option.bind_some, none_, if_pos List.isEmpty_nil]
  have nothingNew : (gegenueber schluessel name felder alt neu).hinzugefuegt = [] ↔ ∀ k ∈ neu.map schluessel, k ∈ alt.map schluessel := by
    rw [gegenueber, sortiert_eq_nil, List.filter_eq_nil_iff, List.forall_mem_map]
    simp only [decide_eq_true_eq, not_not]
  have nothingGone : (gegenueber schluessel name felder alt neu).entfernt = [] ↔ ∀ k ∈ alt.map schluessel, k ∈ neu.map schluessel := by
    rw [gegenueber, sortiert_eq_nil, List.filter_eq_nil_iff, List.forall_mem_map]
    simp only [decide_eq_true_eq, not_not]
  rw [Gegenueber.Leer, unchanged, nothingNew, nothingGone, ← and_assoc]
  refine and_congr_left' ⟨fun both k => ⟨both.2 k, both.1 k⟩, fun same => ⟨fun k => (same k).mpr, fun k => (same k).mp⟩⟩

end Gegenueberstellung

section Abgleich

/-- Two ordered lists have the same projection if they have the same keys and the rows of one
key have the same. -/
theorem map_eq_iff {α β κ ο : Type} [LinearOrder ο] {f : α → β} {schluessel : α → κ} {ordnung : α → ο} {alt neu : List α}
    (sortedAlt : alt.Pairwise (ordnung · ≤ ordnung ·)) (sortedNeu : neu.Pairwise (ordnung · ≤ ordnung ·))
    (nodupAlt : (alt.map schluessel).Nodup) (nodupNeu : (neu.map schluessel).Nodup)
    (keyed : ∀ a b, f a = f b → schluessel a = schluessel b) (ordered : ∀ a b, f a = f b → ordnung a = ordnung b)
    (unique : ∀ a b, ordnung a = ordnung b → schluessel a = schluessel b) :
    alt.map f = neu.map f ↔ (∀ k, k ∈ alt.map schluessel ↔ k ∈ neu.map schluessel) ∧
      ∀ a ∈ alt, ∀ n ∈ neu, schluessel n = schluessel a → f a = f n := by
  have one : ∀ {l : List α}, (l.map schluessel).Nodup → ∀ a ∈ l, ∀ b ∈ l, schluessel a = schluessel b → a = b := fun nodup a isA b isB same =>
    List.inj_on_of_nodup_map nodup isA isB same
  constructor
  · intro same
    have there : ∀ a ∈ alt, ∃ n ∈ neu, f n = f a := fun a isA => List.mem_map.mp (same ▸ List.mem_map_of_mem isA)
    have back : ∀ n ∈ neu, ∃ a ∈ alt, f a = f n := fun n isN => List.mem_map.mp (same ▸ List.mem_map_of_mem isN)
    refine ⟨fun k => ⟨fun isK => ?_, fun isK => ?_⟩, fun a isA n isN key => ?_⟩
    · obtain ⟨a, isA, rfl⟩ := List.mem_map.mp isK
      obtain ⟨n, isN, proj⟩ := there a isA
      exact List.mem_map.mpr ⟨n, isN, keyed _ _ proj⟩
    · obtain ⟨n, isN, rfl⟩ := List.mem_map.mp isK
      obtain ⟨a, isA, proj⟩ := back n isN
      exact List.mem_map.mpr ⟨a, isA, keyed _ _ proj⟩
    · obtain ⟨n', isN', proj⟩ := there a isA
      rw [one nodupNeu n isN n' isN' (key.trans (keyed _ _ proj).symm)]
      exact proj.symm
  · rintro ⟨keys, rows⟩
    have inj : ∀ {l : List α}, (l.map schluessel).Nodup → (l.map f).Nodup := fun nodup =>
      List.Nodup.of_map (fun b => b) (by
        rw [List.map_id']
        refine (List.Nodup.of_map _ nodup).map_on fun a isA b isB same => one nodup a isA b isB (keyed a b same))
    have perm : (alt.map f).Perm (neu.map f) := by
      refine (List.perm_ext_iff_of_nodup (inj nodupAlt) (inj nodupNeu)).mpr fun b => ⟨fun isB => ?_, fun isB => ?_⟩
      · obtain ⟨a, isA, rfl⟩ := List.mem_map.mp isB
        obtain ⟨n, isN, key⟩ := List.mem_map.mp ((keys _).mp (List.mem_map_of_mem isA))
        exact List.mem_map.mpr ⟨n, isN, (rows a isA n isN key).symm⟩
      · obtain ⟨n, isN, rfl⟩ := List.mem_map.mp isB
        obtain ⟨a, isA, key⟩ := List.mem_map.mp ((keys _).mpr (List.mem_map_of_mem isN))
        exact List.mem_map.mpr ⟨a, isA, rows a isA n isN key.symm⟩
    -- the order of a projected row is that of any row it is of
    have sorted : ∀ {l : List α}, l.Pairwise (ordnung · ≤ ordnung ·) →
        (l.map f).Pairwise fun b c => ∃ a a', f a = b ∧ f a' = c ∧ ordnung a ≤ ordnung a' := fun pairs =>
      List.pairwise_map.mpr (pairs.imp fun le => ⟨_, _, rfl, rfl, le⟩)
    refine List.Perm.eq_of_pairwise (fun b c isB isC less more => ?_) (sorted sortedAlt) (sorted sortedNeu) perm
    obtain ⟨a, a', rfl, rfl, le⟩ := less
    obtain ⟨n, n', here, there, ge⟩ := more
    rw [ordered _ _ here, ordered _ _ there] at ge
    obtain ⟨a₁, isA, first⟩ := List.mem_map.mp isB
    obtain ⟨n₁, isN, second⟩ := List.mem_map.mp isC
    have key : schluessel n₁ = schluessel a₁ := unique _ _ (by rw [ordered _ _ second, ordered _ _ first]; exact ge.antisymm le)
    rw [← first, ← second]
    exact rows a₁ isA n₁ isN key

end Abgleich

section Vergleichen

variable {J : Type} [DecidableEq J]

structure Vergleich (J : Type) where
  elemente : Gegenueber J KatplanVersionElement
  kopf : List (Aenderung J)
  abschnitte : Gegenueber J KatplanAbschnitt
  phasen : Gegenueber J KatplanPhase

def vertraulicheAnhaenge (alt neu : Snapshot) : List String :=
  (alt.kopf.anhaenge.map (·.toAnhangKern) ++ neu.kopf.anhaenge.map (·.toAnhangKern) ++
    (alt.elemente ++ neu.elemente).flatMap fun e => e.anhaenge.map (·.toAnhangKern)).filterMap fun a =>
      if a.vertraulich then some a.uuid else none

def vergleicheVersionen (lesart : Lesart J) (alt neu : Snapshot) (mitVertraulichen : Bool := true) : Vergleich J :=
  let verborgen := if mitVertraulichen then [] else vertraulicheAnhaenge alt neu
  { elemente := gegenueber (·.elementUuid) id (elementFelder lesart verborgen) alt.elemente neu.elemente
    kopf := aenderungen (kopfFelder lesart verborgen) alt.kopf neu.kopf
    abschnitte := gegenueber (·.id) toString (abschnittFelder lesart) alt.kopf.abschnitte neu.kopf.abschnitte
    phasen := gegenueber (·.id) toString phaseFelder alt.kopf.phasen neu.kopf.phasen }

/-- A change of the header that a release is meant to see: not the review date, the catalogue
of actors, the section of an attachment, or what a source has besides its title and version. -/
def Aenderung.Wesentlich (a : Aenderung J) : Prop :=
  a.feld ≠ "wiedervorlage_am" ∧ a.feld ≠ "akteure" ∧
    match a.alt, a.neu with
    | .anhaenge alt, .anhaenge neu => alt.map (·.1) ≠ neu.map (·.1)
    | .quellen alt, .quellen neu => alt.map (·.toQuelleKern) ≠ neu.map (·.toQuelleKern)
    | _, _ => True

/-- The comparison reports nothing that a release is meant to see. -/
structure Vergleich.OhneAenderung (v : Vergleich J) : Prop where
  elemente : v.elemente.Leer
  kopf : ∀ a ∈ v.kopf, ¬ a.Wesentlich
  abschnitte : v.abschnitte.Leer
  phasen : v.phasen.Leer

/-- The texts that the comparison reads for their words and values alone are letter by letter the same. -/
structure Wortgleich (alt neu : Snapshot) : Prop where
  kopf : alt.kopf.plan.beschreibungHtml = neu.kopf.plan.beschreibungHtml
  abschnitte : ∀ a ∈ alt.kopf.abschnitte, ∀ n ∈ neu.kopf.abschnitte, n.id = a.id → a.beschreibungHtml = n.beschreibungHtml
  elemente : ∀ a ∈ alt.elemente, ∀ n ∈ neu.elemente, n.elementUuid = a.elementUuid →
    a.spalten.beschreibungHtml = n.spalten.beschreibungHtml ∧ a.spalten.datenJson = n.spalten.datenJson ∧
      a.spalten.akteureJson = n.spalten.akteureJson ∧ a.spalten.tagsJson = n.spalten.tagsJson ∧
      a.spalten.geometryJson = n.spalten.geometryJson

variable (lesart : Lesart J)

theorem nummer_inj {a b : Option Nat} : a.map (Nat.cast : Nat → Int) = b.map Nat.cast ↔ a = b :=
  (Option.map_injective fun _ _ same => Int.ofNat.inj same).eq_iff

theorem abschnitt_eq_iff {a n : KatplanAbschnitt} :
    a = n ↔ aenderungen (abschnittFelder lesart) a n = [] ∧ a.beschreibungHtml = n.beschreibungHtml := by
  rw [aenderungen_eq_nil]
  constructor
  · rintro rfl
    exact ⟨fun _ _ => rfl, rfl⟩
  · obtain ⟨id, parentId, titel, html, sort⟩ := a
    obtain ⟨id', parentId', titel', html', sort'⟩ := n
    rintro ⟨same, rfl⟩
    simp only [abschnittFelder, List.forall_mem_cons, Wert.zahl.injEq, nummer_inj, Wert.text.injEq, Option.some.injEq, Int.ofNat_inj] at same
    obtain ⟨-, rfl, rfl, rfl, rfl, -⟩ := same
    rfl

theorem phase_eq_iff {p n : KatplanPhase} : p = n ↔ aenderungen (J := J) phaseFelder p n = [] := by
  rw [aenderungen_eq_nil]
  constructor
  · rintro rfl
    exact fun _ _ => rfl
  · obtain ⟨id, name, beschreibung, ausloeser, farbe, sort⟩ := p
    obtain ⟨id', name', beschreibung', ausloeser', farbe', sort'⟩ := n
    intro same
    simp only [phaseFelder, List.forall_mem_cons, Wert.zahl.injEq, Wert.text.injEq, Option.some.injEq, Int.ofNat_inj] at same
    obtain ⟨rfl, rfl, rfl, rfl, rfl, rfl, -⟩ := same
    rfl

theorem anhangStruktur_nil (anhaenge : List KopfAnhang) :
    anhangStruktur [] anhaenge = anhaenge.map fun a => (a.toAnhangKern, a.abschnittId) := by
  rw [anhangStruktur, List.filter_eq_self.mpr fun _ _ => decide_eq_true List.not_mem_nil]

theorem anhaenge_eq_iff {a n : List AnhangSnapshot} :
    anhangStruktur [] (a.map fun x => { x with abschnittId := none }) = anhangStruktur [] (n.map fun x => { x with abschnittId := none }) ↔
      a.map (·.toAnhangKern) = n.map (·.toAnhangKern) := by
  have paired : ∀ l : List AnhangSnapshot, anhangStruktur [] (l.map fun x => { x with abschnittId := none }) =
      (l.map (·.toAnhangKern)).map fun k => (k, none) := by
    intro l
    rw [anhangStruktur_nil, List.map_map, List.map_map]
    rfl
  rw [paired, paired]
  exact (List.map_injective_iff.mpr fun _ _ same => (Prod.mk.inj same).1).eq_iff

theorem hashElement_eq_iff {a n : KatplanVersionElement} (key : n.elementUuid = a.elementUuid) :
    a.hashElement = n.hashElement ↔ aenderungen (elementFelder lesart []) a n = [] ∧
      a.spalten.beschreibungHtml = n.spalten.beschreibungHtml ∧ a.spalten.datenJson = n.spalten.datenJson ∧
      a.spalten.akteureJson = n.spalten.akteureJson ∧ a.spalten.tagsJson = n.spalten.tagsJson ∧
      a.spalten.geometryJson = n.spalten.geometryJson := by
  rw [aenderungen_eq_nil]
  constructor
  · intro same
    simp only [KatplanVersionElement.hashElement, Element.mk.injEq] at same
    obtain ⟨-, spalten, phasen, relationen, links, anhaenge, gsl⟩ := same
    refine ⟨fun f member => ?_, by rw [spalten], by rw [spalten], by rw [spalten], by rw [spalten], by rw [spalten]⟩
    have attachments := anhaenge_eq_iff.mpr anhaenge
    simp only [elementFelder, List.mem_cons, List.not_mem_nil, or_false] at member
    rcases member with rfl | rfl | rfl | rfl | rfl | rfl | rfl | rfl | rfl | rfl | rfl | rfl | rfl | rfl | rfl | rfl | rfl | rfl |
      rfl | rfl | rfl | rfl | rfl | rfl | rfl | rfl | rfl | rfl | rfl <;> simp only [spalten, phasen, relationen, links, gsl, attachments]
  · rintro ⟨same, html, daten, akteure, tags, geometry⟩
    simp only [elementFelder, List.forall_mem_cons, Wert.zahl.injEq, nummer_inj, Wert.text.injEq, Wert.bruch.injEq, Wert.wahr.injEq,
      Wert.datum.injEq, Wert.links.injEq, Wert.anhaenge.injEq, Wert.relationen.injEq, Wert.phasen.injEq, Wert.gsl.injEq,
      Option.some.injEq, anhaenge_eq_iff] at same
    obtain ⟨abschnitt, -, anhaenge, -, -, geoStatus, -, gsl, gueltig, hausnummer, herkunft, kennung, lat, links, lng, ort, phasen, plz,
      prioritaet, pruefen, dokument, seiten, relationen, sort, strasse, -, titel, typ, vertraulich, -⟩ := same
    simp only [KatplanVersionElement.hashElement, Element.mk.injEq]
    refine ⟨key.symm, ?_, phasen, relationen, links, anhaenge, gsl⟩
    exact ElementSpalten.ext abschnitt kennung typ titel html daten prioritaet akteure tags gueltig pruefen vertraulich strasse hausnummer
      plz ort lat lng geometry geoStatus herkunft dokument seiten sort

theorem ohneWesentliche_iff {α : Type} {felder : List (Feld J α)} {alt neu : α} :
    (∀ c ∈ aenderungen felder alt neu, ¬ c.Wesentlich) ↔ ∀ f ∈ felder, f.liest alt ≠ f.liest neu →
      ¬ Aenderung.Wesentlich { feld := f.name, alt := f.liest alt, neu := f.liest neu } := by
  constructor
  · intro none_ f member differ wesentlich
    refine none_ { feld := f.name, alt := f.liest alt, neu := f.liest neu, label := label f.name } ?_ wesentlich
    exact List.mem_filterMap.mpr ⟨f, member, if_pos differ⟩
  · intro none_ c member wesentlich
    obtain ⟨f, isF, made⟩ := List.mem_filterMap.mp member
    split at made
    · next differ =>
      cases made
      exact none_ f isF differ wesentlich
    · cases made

theorem kopf_eq_iff {a n : SnapshotKopf} :
    (a.plan = n.plan ∧ a.links.map (·.toLinkStruktur) = n.links.map (·.toLinkStruktur) ∧
      a.anhaenge.map (·.toAnhangKern) = n.anhaenge.map (·.toAnhangKern) ∧
      a.quellen.map (·.toQuelleKern) = n.quellen.map (·.toQuelleKern)) ↔
    (∀ c ∈ aenderungen (kopfFelder lesart []) a n, ¬ c.Wesentlich) ∧ a.plan.beschreibungHtml = n.plan.beschreibungHtml := by
  have attachments : ∀ k : SnapshotKopf, (anhangStruktur [] k.anhaenge).map (·.1) = k.anhaenge.map (·.toAnhangKern) := by
    intro k
    rw [anhangStruktur_nil, List.map_map]
    rfl
  rw [ohneWesentliche_iff]
  constructor
  · rintro ⟨plan, links, anhaenge, quellen⟩
    refine ⟨fun f member differ wesentlich => ?_, by rw [plan]⟩
    simp only [kopfFelder, List.mem_cons, List.not_mem_nil, or_false] at member
    rcases member with rfl | rfl | rfl | rfl | rfl | rfl | rfl | rfl | rfl | rfl | rfl | rfl | rfl | rfl | rfl | rfl | rfl
    · exact wesentlich.2.1 rfl
    · exact wesentlich.2.2 (by rw [attachments, attachments, anhaenge])
    iterate 6 exact differ (by simp only [plan, links])
    · exact differ (by simp only [plan])
    · exact wesentlich.2.2 quellen
    iterate 6 exact differ (by simp only [plan])
    · exact wesentlich.1 rfl
  · rintro ⟨none_, html⟩
    have same : ∀ f ∈ kopfFelder lesart [], f.name ∉ ["wiedervorlage_am", "akteure", "anhaenge", "quellen"] → f.liest a = f.liest n := by
      intro f member plain
      simp only [List.mem_cons, List.not_mem_nil, or_false, not_or] at plain
      obtain ⟨review, actors, attachment, source⟩ := plain
      by_contra differ
      have allowed := none_ f member differ
      simp only [kopfFelder, List.mem_cons, List.not_mem_nil, or_false] at member
      rcases member with rfl | rfl | rfl | rfl | rfl | rfl | rfl | rfl | rfl | rfl | rfl | rfl | rfl | rfl | rfl | rfl | rfl
      · exact actors rfl
      · exact attachment rfl
      iterate 7 exact allowed ⟨review, actors, trivial⟩
      · exact source rfl
      iterate 6 exact allowed ⟨review, actors, trivial⟩
      · exact review rfl
    have anhaenge : a.anhaenge.map (·.toAnhangKern) = n.anhaenge.map (·.toAnhangKern) := by
      by_contra differ
      rw [← attachments, ← attachments] at differ
      refine none_ ⟨"anhaenge", fun k => .anhaenge (anhangStruktur [] k.anhaenge)⟩ (by simp [kopfFelder]) (fun equal => differ ?_)
        ⟨show "anhaenge" ≠ "wiedervorlage_am" by decide, show "anhaenge" ≠ "akteure" by decide, differ⟩
      rw [Wert.anhaenge.inj equal]
    have quellen : a.quellen.map (·.toQuelleKern) = n.quellen.map (·.toQuelleKern) := by
      by_contra differ
      refine none_ ⟨"quellen", fun k => .quellen k.quellen⟩ (by simp [kopfFelder]) (fun equal => differ ?_)
        ⟨show "quellen" ≠ "wiedervorlage_am" by decide, show "quellen" ≠ "akteure" by decide, differ⟩
      rw [Wert.quellen.inj equal]
    simp only [kopfFelder, List.forall_mem_cons, Wert.zahl.injEq, nummer_inj, Wert.text.injEq, Wert.texte.injEq, Wert.links.injEq,
      Option.some.injEq] at same
    obtain ⟨-, -, -, gefahrenarten, geltungsbereich, kategorie, kurzbeschreibung, links, planart, -, schlagwoerter, titel, unterkategorie,
      uuid, kontakt, stelle, -, -⟩ := same
    refine ⟨PlanSpalten.ext (uuid (by decide)) (planart (by decide)) (titel (by decide)) html (geltungsbereich (by decide))
      (stelle (by decide)) (kontakt (by decide)) (kategorie (by decide)) (unterkategorie (by decide)) (kurzbeschreibung (by decide))
      (schlagwoerter (by decide)) (gefahrenarten (by decide)), links (by decide), anhaenge, quellen⟩

theorem abschnitte_eq_iff {alt neu : Snapshot} : alt.kopf.abschnitte = neu.kopf.abschnitte ↔
    (gegenueber (·.id) toString (abschnittFelder lesart) alt.kopf.abschnitte neu.kopf.abschnitte).Leer ∧
      ∀ a ∈ alt.kopf.abschnitte, ∀ n ∈ neu.kopf.abschnitte, n.id = a.id → a.beschreibungHtml = n.beschreibungHtml := by
  have rows := map_eq_iff (f := id) alt.abschnitteOrdnung neu.abschnitteOrdnung alt.abschnitteNodup
    neu.abschnitteNodup (fun _ _ same => congrArg _ same) (fun _ _ same => congrArg _ same) (fun _ _ same => congrArg (ofLex · |>.2) same)
  rw [List.map_id, List.map_id] at rows
  rw [rows, gegenueber_leer neu.abschnitteNodup, and_assoc]
  refine and_congr_right fun _ => ⟨fun all => ⟨fun a isA n isN key => ?_, fun a isA n isN key => ?_⟩, fun ⟨all, html⟩ a isA n isN key => ?_⟩
  · exact ((abschnitt_eq_iff lesart).mp (all a isA n isN key)).1
  · exact ((abschnitt_eq_iff lesart).mp (all a isA n isN key)).2
  · exact (abschnitt_eq_iff lesart).mpr ⟨all a isA n isN key, html a isA n isN key⟩

theorem phasen_eq_iff {alt neu : Snapshot} : alt.kopf.phasen = neu.kopf.phasen ↔
    (gegenueber (J := J) (·.id) toString phaseFelder alt.kopf.phasen neu.kopf.phasen).Leer := by
  have rows := map_eq_iff (f := id) alt.phasenOrdnung neu.phasenOrdnung alt.phasenNodup
    neu.phasenNodup (fun _ _ same => congrArg _ same) (fun _ _ same => congrArg _ same) (fun _ _ same => congrArg (ofLex · |>.2) same)
  rw [List.map_id, List.map_id] at rows
  rw [rows, gegenueber_leer neu.phasenNodup]
  exact and_congr_right fun _ => forall₅_congr fun _ _ _ _ _ => phase_eq_iff

theorem elemente_eq_iff {alt neu : Snapshot} :
    alt.elemente.map (·.hashElement) = neu.elemente.map (·.hashElement) ↔
      (gegenueber (·.elementUuid) id (elementFelder lesart []) alt.elemente neu.elemente).Leer ∧
        ∀ a ∈ alt.elemente, ∀ n ∈ neu.elemente, n.elementUuid = a.elementUuid →
          a.spalten.beschreibungHtml = n.spalten.beschreibungHtml ∧ a.spalten.datenJson = n.spalten.datenJson ∧
            a.spalten.akteureJson = n.spalten.akteureJson ∧ a.spalten.tagsJson = n.spalten.tagsJson ∧
            a.spalten.geometryJson = n.spalten.geometryJson := by
  have uuid : ∀ a n : KatplanVersionElement, a.hashElement = n.hashElement → a.elementUuid = n.elementUuid := fun _ _ same =>
    congrArg (fun e => e.elementUuid) same
  have ordnung : ∀ a n : KatplanVersionElement, a.hashElement = n.hashElement → a.ordnung = n.ordnung := fun _ _ same =>
    congrArg (fun e => e.ordnung) same
  have rows := map_eq_iff alt.elementeOrdnung neu.elementeOrdnung alt.elementeNodup neu.elementeNodup uuid ordnung
    (fun _ _ same => congrArg (ofLex · |>.2) same)
  rw [rows, gegenueber_leer neu.elementeNodup, and_assoc]
  refine and_congr_right fun _ => ⟨fun all => ⟨fun a isA n isN key => ?_, fun a isA n isN key => ?_⟩, fun ⟨all, texts⟩ a isA n isN key => ?_⟩
  · exact ((hashElement_eq_iff lesart key).mp (all a isA n isN key)).1
  · exact ((hashElement_eq_iff lesart key).mp (all a isA n isN key)).2
  · exact (hashElement_eq_iff lesart key).mpr ⟨all a isA n isN key, texts a isA n isN key⟩

/-- What the checksum is taken of is the same just if the comparison finds nothing that
matters and the texts that it reads are literally the same. -/
theorem hashDaten_eq_iff {alt neu : Snapshot} :
    alt.hashDaten = neu.hashDaten ↔ (vergleicheVersionen lesart alt neu).OhneAenderung ∧ Wortgleich alt neu := by
  rw [Snapshot.hashDaten, Snapshot.hashDaten, Prod.mk.injEq, elemente_eq_iff lesart]
  simp only [SnapshotKopf.hashKopf, Kopf.mk.injEq]
  rw [abschnitte_eq_iff lesart, phasen_eq_iff (J := J)]
  constructor
  · rintro ⟨⟨plan, ⟨abschnitte, absatz⟩, phasen, rest⟩, elemente, texte⟩
    obtain ⟨kopf, html⟩ := (kopf_eq_iff lesart).mp ⟨plan, rest⟩
    exact ⟨⟨elemente, kopf, abschnitte, phasen⟩, html, absatz, texte⟩
  · rintro ⟨⟨elemente, kopf, abschnitte, phasen⟩, html, absatz, texte⟩
    obtain ⟨plan, rest⟩ := (kopf_eq_iff lesart).mpr ⟨kopf, html⟩
    exact ⟨⟨plan, ⟨abschnitte, absatz⟩, phasen, rest⟩, elemente, texte⟩

end Vergleichen

section Freigeben

variable {plan : KatplanPlan} {userId n : Nat} {notiz : Option String} {heute : Datum}

theorem meldung_head (n : Nat) : (s!"Keine Änderungen seit Version {n}").toList.head? = some 'K' := by
  have first : (toString "Keine Änderungen seit Version ").toList.head? = some 'K' := by decide +kernel
  rw [String.toList_append, List.head?_append, first, Option.some_or]

/-- When a release of a plan with a current version says that nothing has changed since version `n`. -/
theorem freigeben_unveraendert {fassung : Fassung} (released : plan.aktuelleVersionId ≠ none) :
    freigeben plan userId notiz fassung heute = .error s!"Keine Änderungen seit Version {n}" ↔
      (∀ text ∈ notiz, text.length ≤ 2000) ∧ plan.status ≠ .archiviert ∧ fassung.anzahlElemente ≠ 0 ∧
        fassung.unveraendertSeit ≠ none ∧
          s!"Keine Änderungen seit Version {fassung.unveraendertSeit.getD 0}" = s!"Keine Änderungen seit Version {n}" := by
  have other : ∀ text : String, text.toList.head? ≠ some 'K' → text ≠ s!"Keine Änderungen seit Version {n}" := by
    rintro text differ rfl
    exact differ (meldung_head n)
  unfold freigeben
  simp only [Raising.require_bind_eq_error]
  rw [or_iff_right fun first => other _ (by decide +kernel) first.2]
  refine and_congr_right fun _ => ?_
  rw [or_iff_right fun first => other _ (by decide +kernel) first.2]
  refine and_congr_right fun _ => ?_
  rw [or_iff_right fun first => other _ (by decide +kernel) first.2]
  refine and_congr_right fun _ => ?_
  rw [or_iff_left, not_or, and_iff_right released]
  rintro ⟨-, later⟩
  rcases later with ⟨-, text⟩ | ⟨-, text⟩
  · exact other _ (by decide +kernel) text
  · cases text

variable {J H : Type} [DecidableEq J] [DecidableEq H] {pruefsumme : HashDaten → H}

/-- A plan with a current version is not released for want of changes just if the comparison
of that version with the new snapshot reports nothing that a release is meant to see and the
HTML and JSON texts, which it reads for their words and values, are literally the same; and
the checks before that are passed. -/
theorem freigeben_vergleich (kollisionsfrei : Function.Injective pruefsumme) (lesart : Lesart J) (ansicht : KatplanLink → LinkAnsicht)
    (plan : KatplanPlan) (released : plan.aktuelleVersionId ≠ none) (aktuell : KatplanVersion pruefsumme) (inhalt : Inhalt)
    (userId versionId : Nat) (notiz : Option String) (heute : Datum) :
    freigeben plan userId notiz (fassung (some aktuell) (erstelleSnapshot ansicht inhalt) versionId) heute =
        .error s!"Keine Änderungen seit Version {aktuell.versionsnummer}" ↔
      ((∀ text ∈ notiz, text.length ≤ 2000) ∧ plan.status ≠ .archiviert ∧ inhalt.elemente ≠ []) ∧
        (vergleicheVersionen lesart aktuell.snapshot (erstelleSnapshot ansicht inhalt)).OhneAenderung ∧
          Wortgleich aktuell.snapshot (erstelleSnapshot ansicht inhalt) := by
  have elements : (fassung (some aktuell) (erstelleSnapshot ansicht inhalt) versionId).anzahlElemente ≠ 0 ↔ inhalt.elemente ≠ [] := by
    rw [fassung, erstelleSnapshot, List.length_map, (sortiert_perm _ _).length_eq, ne_eq, List.length_eq_zero_iff]
  rw [freigeben_unveraendert released, elements, ← hashDaten_eq_iff lesart, and_assoc, and_assoc]
  refine and_congr_right fun _ => and_congr_right fun _ => and_congr_right fun _ => ?_
  unfold fassung
  dsimp only
  by_cases same : aktuell.snapshot.hashDaten = (erstelleSnapshot ansicht inhalt).hashDaten
  · rw [Option.filter_some, if_pos (decide_eq_true (aktuell.vonInhalt.trans (congrArg pruefsumme same)))]
    exact iff_of_true ⟨Option.some_ne_none _, rfl⟩ same
  · have differ : aktuell.inhaltHash ≠ pruefsumme (erstelleSnapshot ansicht inhalt).hashDaten := fun equal =>
      same (kollisionsfrei (aktuell.vonInhalt.symm.trans equal))
    rw [Option.filter_some, if_neg (by simpa using differ)]
    exact iff_of_false (fun both => both.1 rfl) same

def ohneMarken : Bool → List Char → List Char
  | _, [] => []
  | true, '>' :: rest => ' ' :: ohneMarken false rest
  | true, _ :: rest => ohneMarken true rest
  | false, '<' :: rest => ohneMarken true rest
  | false, char :: rest => char :: ohneMarken false rest

def schlicht : Lesart String where
  htmlText html := String.ofList (((ohneMarken false html.toList).splitOnP (·.isWhitespace)).filter (· ≠ []) |>.intersperse [' '] |>.flatten)
  loads := id
  null := "null"

def infoElement (html : String) : KatplanElement where
  id := 1
  uuid := "e"
  suchtext := none
  abschnittId := none
  kennung := none
  typ := "info"
  titel := "Info"
  beschreibungHtml := some html
  datenJson := none
  prioritaet := 2
  akteureJson := none
  tagsJson := some "[]"
  gueltigBis := none
  pruefenAm := none
  vertraulich := false
  strasse := none
  hausnummer := none
  plz := none
  ort := none
  lat := none
  lng := none
  geometryJson := none
  geoStatus := "keine"
  herkunft := "manual"
  quelleDokumentId := none
  quelleSeiten := none
  sort := 10
  gsl := { gslAuftragsart := none, gslDauerMin := none, gslPrioritaet := none, gslRessourcentypenJson := none,
           gslVoraussetzungen := none, gslVorlage := false }

def info (html : String) : Inhalt where
  plan := { uuid := "p", planart := "katastrophenplan", titel := "Sturm", beschreibungHtml := none, geltungsbereich := none,
            verantwortlicheStelle := none, verantwortlichKontaktId := none, kategorie := none, unterkategorie := none,
            kurzbeschreibung := none, schlagwoerter := [], gefahrenarten := [] }
  wiedervorlageAm := none
  abschnitte := []
  phasen := []
  links := []
  anhaenge := []
  quellen := []
  elemente := [infoElement html]
  relationen := []
  elementPhasen := []
  akteure := []
  abschnitteNodup := List.nodup_nil
  phasenNodup := List.nodup_nil
  elementeNodup := List.nodup_singleton _

def sturmplan : KatplanPlan := { id := 1, orgId := none, titel := "Sturm", status := .inUeberarbeitung, aktuelleVersionId := some 1 }

def ohneZiel (_ : KatplanLink) : LinkAnsicht := { titel := "", untertitel := "", telefone := [] }

def infoSnapshot (html : String) : Snapshot := erstelleSnapshot ohneZiel (info html)

theorem infoSnapshot_elemente (html : String) :
    (infoSnapshot html).elemente = [versionElement ohneZiel (info html) (infoElement html)] := by
  have single : sortiert (fun e : KatplanElement => toLex (e.sort, e.uuid)) [infoElement html] = [infoElement html] :=
    List.mergeSort_singleton _
  exact congrArg (List.map (versionElement ohneZiel (info html))) single

/-- The plan that is released a second time as it is. -/
theorem freigeben_vergleich_gleich :
    (vergleicheVersionen schlicht (infoSnapshot "<b>Gleich</b>") (infoSnapshot "<b>Gleich</b>")).OhneAenderung := by
  have both := @freigeben_vergleich String HashDaten _ _ id Function.injective_id schlicht ohneZiel sturmplan nofun
    (neueVersion id 1 (infoSnapshot "<b>Gleich</b>")) (info "<b>Gleich</b>") 1 2 none (erster 2026 1 (by decide))
  exact (both.mp (by decide +kernel)).2.1

theorem vergleich_info {alt neu : String} (words : schlicht.htmlText alt = schlicht.htmlText neu) :
    (vergleicheVersionen schlicht (infoSnapshot alt) (infoSnapshot neu)).OhneAenderung where
  elemente := by
    refine (gegenueber_leer (infoSnapshot neu).elementeNodup).mpr ⟨fun k => ?_, fun a isA n isN _ => ?_⟩
    · rw [infoSnapshot_elemente, infoSnapshot_elemente]
      rfl
    · rw [infoSnapshot_elemente] at isA isN
      rw [List.mem_singleton.mp isA, List.mem_singleton.mp isN, aenderungen_eq_nil]
      have text : schlicht.text (some alt) = schlicht.text (some neu) := congrArg (Wert.text ∘ some) words
      simp only [elementFelder, List.forall_mem_cons]
      exact ⟨rfl, rfl, rfl, text, rfl, rfl, rfl, rfl, rfl, rfl, rfl, rfl, rfl, rfl, rfl, rfl, rfl, rfl, rfl, rfl, rfl, rfl, rfl, rfl,
        rfl, rfl, rfl, rfl, rfl, fun _ member => absurd member List.not_mem_nil⟩
  kopf := by
    have same : (vergleicheVersionen schlicht (infoSnapshot alt) (infoSnapshot neu)).kopf = [] := aenderungen_eq_nil.mpr fun _ _ => rfl
    rw [same]
    exact fun _ member => absurd member List.not_mem_nil
  abschnitte := ((abschnitte_eq_iff schlicht).mp rfl).1
  phasen := phasen_eq_iff.mp rfl

/-- Other markup of the same words is released as a version, and the comparison shows nothing. -/
theorem freigeben_auszeichnung :
    ¬ (freigeben sturmplan 1 none (fassung (some (neueVersion id 1 (infoSnapshot "<b>Gleich</b>"))) (infoSnapshot "<p>Gleich</p>") 2)
        (erster 2026 1 (by decide)) = .error s!"Keine Änderungen seit Version {1}" ↔
      (vergleicheVersionen schlicht (infoSnapshot "<b>Gleich</b>") (infoSnapshot "<p>Gleich</p>")).OhneAenderung) := fun both =>
  absurd (both.mpr (vergleich_info (by decide +kernel))) (by decide +kernel)

end Freigeben

end Einsatzcockpit.Katplan.Freigabe
