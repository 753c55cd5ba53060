import Einsatzcockpit.Alarmtext.Parser
import Einsatzcockpit.Lib.Reorder

namespace Einsatzcockpit.Alarmtext

open Reorder

namespace Verzeichnis

variable {α : Type} {a a' b b' : Verzeichnis α}

def Umgestellt (a a' : Verzeichnis α) : Prop := a.eintraege.Perm a'.eintraege

theorem get?_eq_some {key : String} {wert : α} : a.get? key = some wert ↔ (key, wert) ∈ a.eintraege := by
  obtain ⟨eintraege, einmal⟩ := a
  simp only [get?]
  induction eintraege with
  | nil => simp
  | cons eintrag rest ih =>
    obtain ⟨key', wert'⟩ := eintrag
    have fresh := List.nodup_cons.mp einmal
    rw [List.lookup_cons, List.mem_cons, Prod.mk.injEq, ← ih fresh.2]
    by_cases same : key = key'
    · subst same
      have absent : rest.lookup key ≠ some wert := fun found =>
        fresh.1 (List.mem_map.mpr ⟨_, (ih fresh.2).mp found, rfl⟩)
      simp [absent, eq_comm]
    · simp [same, beq_false_of_ne same]

theorem Umgestellt.get? (reordered : a.Umgestellt a') : a.get? = a'.get? := by
  funext key
  ext wert
  rw [get?_eq_some, get?_eq_some, reordered.mem_iff]

theorem Umgestellt.oder (left : a.Umgestellt a') (right : b.Umgestellt b') : (a.oder b).Perm (a'.oder b') := by
  unfold Verzeichnis.oder
  rw [left.get?, right.get?]
  exact (left.map _).append (right.filter _)

end Verzeichnis

structure GemeindeInfo.Umgestellt (info info' : GemeindeInfo) : Prop where
  anzeigename : info.anzeigename = info'.anzeigename
  ortsteile : info.ortsteile.Umgestellt info'.ortsteile
  strassen : info.strassen.Umgestellt info'.strassen
  objekte : info.objekte.Umgestellt info'.objekte

theorem GemeindeInfo.Umgestellt.werte {info info' : GemeindeInfo} (reordered : info.Umgestellt info') :
    (info.strassen.oder info.objekte).Perm (info'.strassen.oder info'.objekte) :=
  reordered.strassen.oder reordered.objekte

/-- The municipalities in any order, each with its entries in any order. -/
structure ParserKontext.Umgestellt (kontext kontext' : ParserKontext) : Prop where
  gemeinden : Reordered (fun a b => a.1 = b.1 ∧ a.2.Umgestellt b.2) kontext.gemeinden.eintraege kontext'.gemeinden.eintraege
  zeitzone : kontext.zeitzone = kontext'.zeitzone

def Regelsatz.mitAliasen (regeln : Regelsatz) (gemeindeAliase ortsteilAliase strassenAliase : Verzeichnis String) : Regelsatz :=
  { regeln with gemeindeAliase, ortsteilAliase, strassenAliase }

structure Regelsatz.Umgestellt (regeln regeln' : Regelsatz) : Prop where
  gemeindeAliase : regeln.gemeindeAliase.Umgestellt regeln'.gemeindeAliase
  ortsteilAliase : regeln.ortsteilAliase.Umgestellt regeln'.ortsteilAliase
  strassenAliase : regeln.strassenAliase.Umgestellt regeln'.strassenAliase
  sonst : regeln' = regeln.mitAliasen regeln'.gemeindeAliase regeln'.ortsteilAliase regeln'.strassenAliase

namespace Textspannen

variable (sp : Textspannen)

theorem sperreAlle_eq (spans : List Spanne) :
    sp.sperreAlle spans = { sp with
      gesperrt := fun i => sp.gesperrt i || spans.any (inSpanne · i)
      entzogen := fun i => sp.entzogen i || (spans.any (inSpanne · i) && !sp.belegt i) } := by
  unfold sperreAlle
  induction spans generalizing sp with
  | nil => simp
  | cons span rest ih =>
    rw [List.foldl_cons, ih]
    simp only [sperre, List.any_cons, Bool.or_assoc, Bool.and_or_distrib_right]

theorem sperreAlle_mem {spans spans' : List Spanne} (same : ∀ x, x ∈ spans ↔ x ∈ spans') :
    sp.sperreAlle spans = sp.sperreAlle spans' := by
  have any : ∀ i, spans.any (inSpanne · i) = spans'.any (inSpanne · i) := fun i => by
    rw [Bool.eq_iff_iff, List.any_eq_true, List.any_eq_true]
    simp only [same]
  rw [sperreAlle_eq, sperreAlle_eq]
  simp only [any]

end Textspannen

section Katalog

variable (sprache : Sprache) (feld : Ortsfeld) {werte werte' aliase aliase' : List (String × String)}

theorem mem_kandidaten (sp : Textspannen) (sameWerte : ∀ x, x ∈ werte ↔ x ∈ werte') (sameAliase : ∀ x, x ∈ aliase ↔ x ∈ aliase')
    (kandidat : Spanne × String) : kandidat ∈ werte.flatMap (kandidatenVon sprache sp feld aliase) ↔
      kandidat ∈ werte'.flatMap (kandidatenVon sprache sp feld aliase') := by
  simp only [List.mem_flatMap, kandidatenVon, List.mem_cons, List.mem_map, List.mem_filter, sameWerte, sameAliase]

theorem verschachtelt_mem {kandidaten kandidaten' : List (Spanne × String)} (same : ∀ x, x ∈ kandidaten ↔ x ∈ kandidaten') :
    verschachtelt kandidaten = verschachtelt kandidaten' := by
  funext span
  rw [Bool.eq_iff_iff, verschachtelt, verschachtelt, List.any_eq_true, List.any_eq_true]
  simp only [same]

theorem katalog_mem (lauf : Lauf) (sameWerte : ∀ x, x ∈ werte ↔ x ∈ werte') (sameAliase : ∀ x, x ∈ aliase ↔ x ∈ aliase') :
    katalog sprache feld werte aliase lauf = katalog sprache feld werte' aliase' lauf := by
  have same := mem_kandidaten sprache feld lauf.sp sameWerte sameAliase
  unfold katalog
  generalize werte.flatMap (kandidatenVon sprache lauf.sp feld aliase) = kandidaten at same ⊢
  generalize werte'.flatMap (kandidatenVon sprache lauf.sp feld aliase') = kandidaten' at same ⊢
  have none : kandidaten = [] ↔ kandidaten' = [] := by
    simp only [List.eq_nil_iff_forall_not_mem, same]
  simp only [none, verschachtelt_mem same]
  split
  · rfl
  · have longest := dedup_perm (a := kandidaten.filter fun x => !verschachtelt kandidaten' x.1)
      (b := kandidaten'.filter fun x => !verschachtelt kandidaten' x.1) fun x => by simp only [List.mem_filter, same]
    have members := fun x => longest.mem_iff (a := x)
    rcases (Reordered.of_perm longest).shape with ⟨one, two⟩ | ⟨x, x', rfl, one, two⟩ | ⟨x, y, rest, x', y', rest', one, two⟩
    all_goals rw [one, two] at members ⊢
    have blocked : lauf.sp.sperreAlle ((x :: y :: rest).map (·.1)) = lauf.sp.sperreAlle ((x' :: y' :: rest').map (·.1)) :=
      lauf.sp.sperreAlle_mem fun z => by simp only [List.mem_map, members]
    dsimp only
    rw [blocked]

end Katalog

section Ort

variable (sprache : Sprache)

theorem mem_strassenspannen {regeln regeln' : Regelsatz} (sp : Textspannen) {info info' : GemeindeInfo}
    (reordered : info.Umgestellt info') (aliase : regeln.strassenAliase.Umgestellt regeln'.strassenAliase) (span : Spanne) :
    span ∈ strassenspannen sprache regeln sp info ↔ span ∈ strassenspannen sprache regeln' sp info' := by
  simp only [strassenspannen, List.mem_flatMap, List.mem_append, List.mem_map, List.mem_filter, List.contains_iff_mem,
    reordered.werte.mem_iff, aliase.mem_iff]

variable {kontext kontext' : ParserKontext} {regeln regeln' : Regelsatz}

theorem ParserKontext.Umgestellt.infos (orte : kontext.Umgestellt kontext') :
    Reordered GemeindeInfo.Umgestellt (kontext.gemeinden.eintraege.map (·.2)) (kontext'.gemeinden.eintraege.map (·.2)) :=
  orte.gemeinden.map fun _ _ related => related.2

theorem parseGemeinde_gleich (orte : kontext.Umgestellt kontext') (aliase : regeln.Umgestellt regeln') (lauf : Lauf) :
    parseGemeinde sprache kontext regeln lauf = parseGemeinde sprache kontext' regeln' lauf := by
  have namen : (kontext.gemeinden.eintraege.map fun x => (x.1, x.2.anzeigename)).Perm
      (kontext'.gemeinden.eintraege.map fun x => (x.1, x.2.anzeigename)) :=
    (orte.gemeinden.map fun x y related => by rw [related.1, related.2.anzeigename]).perm
  exact katalog_mem sprache .gemeinde lauf (fun _ => namen.mem_iff) fun _ => aliase.gemeindeAliase.mem_iff

theorem parseOrtIn_gleich {info info' : GemeindeInfo} (related : info.Umgestellt info') (aliase : regeln.Umgestellt regeln')
    (lauf : Lauf) : parseOrtIn sprache regeln info lauf = parseOrtIn sprache regeln' info' lauf := by
  have ortsteil := katalog_mem sprache .ortsteil lauf (fun _ => related.ortsteile.mem_iff) fun _ => aliase.ortsteilAliase.mem_iff
  have strasse := fun lauf => katalog_mem sprache .strasse lauf (fun _ => related.werte.mem_iff) fun _ => aliase.strassenAliase.mem_iff
  unfold parseOrtIn
  rw [ortsteil]
  dsimp only
  rw [strasse]

section

variable (orte : kontext.Umgestellt kontext') (aliase : regeln.Umgestellt regeln') (lauf : Lauf)
include orte aliase lauf

theorem parseStrasse_gleich :
    parseStrasse sprache kontext regeln lauf = parseStrasse sprache kontext' regeln' lauf := by
  have spannen := fun {info info'} (related : GemeindeInfo.Umgestellt info info') span =>
    mem_strassenspannen sprache lauf.sp related aliase.strassenAliase span
  have passend := orte.infos.filter (p := fun info => !(strassenspannen sprache regeln lauf.sp info).isEmpty)
    (q := fun info => !(strassenspannen sprache regeln' lauf.sp info).isEmpty) fun x y related => by
      rw [Bool.eq_iff_iff]
      simp only [Bool.not_eq_true', List.isEmpty_eq_false_iff_exists_mem, spannen related]
  unfold parseStrasse
  rcases passend.shape with ⟨one, two⟩ | ⟨info, info', related, one, two⟩ | ⟨_, _, _, _, _, _, one, two⟩
  · rw [one, two]
  · rw [one, two]
    exact katalog_mem sprache .strasse lauf (fun _ => related.werte.mem_iff) fun _ => aliase.strassenAliase.mem_iff
  · rw [one, two] at passend ⊢
    dsimp only
    rw [lauf.sp.sperreAlle_mem fun span => ?_]
    rw [List.mem_flatMap, List.mem_flatMap]
    constructor
    · rintro ⟨info, member, found⟩
      obtain ⟨info', member', related⟩ := passend.partner member
      exact ⟨info', member', (spannen related span).mp found⟩
    · rintro ⟨info', member', found⟩
      obtain ⟨info, member, related⟩ := passend.partner' member'
      exact ⟨info, member, (spannen related span).mpr found⟩

theorem parseOrt_gleich :
    parseOrt sprache kontext regeln lauf = parseOrt sprache kontext' regeln' lauf := by
  unfold parseOrt
  rw [parseGemeinde_gleich sprache orte aliase]
  generalize parseGemeinde sprache kontext' regeln' lauf = gemeinde
  have gleichnamig := orte.infos.filter (p := fun info => some info.anzeigename == gemeinde.1.result.gemeinde)
    (q := fun info => some info.anzeigename == gemeinde.1.result.gemeinde) fun x y related => by rw [related.anzeigename]
  dsimp only
  rcases gleichnamig.shape with ⟨one, two⟩ | ⟨info, info', related, one, two⟩ | ⟨_, _, _, _, _, _, one, two⟩
  · rw [one, two]
    dsimp only
    rw [parseStrasse_gleich sprache orte aliase]
  · rw [one, two]
    dsimp only
    rw [parseOrtIn_gleich sprache related aliase]
  · rw [one, two]
    dsimp only
    rw [parseStrasse_gleich sprache orte aliase]

end

end Ort

section Rest

variable (sprache : Sprache) (kontext : ParserKontext) (regeln : Regelsatz) (g o s : Verzeichnis String)

theorem kopf_mitAliasen : kopf (regeln.mitAliasen g o s) = kopf regeln := by
  funext text spans
  induction spans with
  | nil => rfl
  | cons span rest ih =>
    rw [kopf, kopf, ih]
    rfl

theorem parseKopfteil_mitAliasen : parseKopfteil sprache kontext (regeln.mitAliasen g o s) = parseKopfteil sprache kontext regeln := by
  have codes : parseKopf sprache (regeln.mitAliasen g o s) = parseKopf sprache regeln := by
    unfold parseKopf
    rw [kopf_mitAliasen]
  have meldebild : parseMeldebild sprache (regeln.mitAliasen g o s) = parseMeldebild sprache regeln := rfl
  have zusatz : teileMeldebild sprache (regeln.mitAliasen g o s) = teileMeldebild sprache regeln := rfl
  unfold parseKopfteil
  rw [codes, meldebild, zusatz]
  rfl

theorem parseSchlussteil_mitAliasen : parseSchlussteil sprache (regeln.mitAliasen g o s) = parseSchlussteil sprache regeln := by
  have struktur : parseStruktur sprache (regeln.mitAliasen g o s) = parseStruktur sprache regeln := rfl
  have reihenfolge : parseReihenfolge (regeln.mitAliasen g o s) = parseReihenfolge regeln := rfl
  have adresszusatz : parseAdresszusatz sprache (regeln.mitAliasen g o s) = parseAdresszusatz sprache regeln := rfl
  have lagezusatz : parseLagezusatz sprache (regeln.mitAliasen g o s) = parseLagezusatz sprache regeln := rfl
  have hausnummer : parseHausnummer (regeln.mitAliasen g o s) = parseHausnummer regeln := rfl
  unfold parseSchlussteil
  rw [struktur, reihenfolge, adresszusatz, lagezusatz, hausnummer]

theorem parseKopfteil_zeitzone {kontext' : ParserKontext} (same : kontext.zeitzone = kontext'.zeitzone) :
    parseKopfteil sprache kontext regeln = parseKopfteil sprache kontext' regeln := by
  have zeit : parseZeit sprache kontext regeln = parseZeit sprache kontext' regeln := by
    unfold parseZeit
    rw [same]
  unfold parseKopfteil
  rw [zeit]

end Rest

/-- The result of the parser does not depend on the order of the catalogue: of its
municipalities, of their districts, streets and objects, and of the aliases. -/
theorem parseAlarm_umgestellt (sprache : Sprache) {kontext kontext' : ParserKontext} {regeln regeln' : Regelsatz}
    (orte : kontext.Umgestellt kontext') (aliase : regeln.Umgestellt regeln') (rawText : String) :
    parseAlarm sprache kontext regeln rawText = parseAlarm sprache kontext' regeln' rawText := by
  have ort := funext (parseOrt_gleich sprache orte aliase)
  have kopf : parseKopfteil sprache kontext' regeln' = parseKopfteil sprache kontext regeln := by
    rw [aliase.sonst, parseKopfteil_mitAliasen, parseKopfteil_zeitzone sprache kontext regeln orte.zeitzone]
  have ende : parseSchlussteil sprache regeln' = parseSchlussteil sprache regeln := by
    rw [aliase.sonst, parseSchlussteil_mitAliasen]
  have wertung : schluss regeln' = schluss regeln := by
    rw [aliase.sonst]
    rfl
  have version : regeln'.version = regeln.version := by
    rw [aliase.sonst]
    rfl
  unfold parseAlarm parse
  rw [ort, kopf, ende, wertung, version]

section Beispiel

def bergdorf : GemeindeInfo where
  anzeigename := "Bergdorf"
  strassen := ⟨[("kirchweg", "Kirchweg"), ("dorfweg", "Dorfweg")], by decide⟩

def bergdorfUmgestellt : GemeindeInfo where
  anzeigename := "Bergdorf"
  strassen := ⟨[("dorfweg", "Dorfweg"), ("kirchweg", "Kirchweg")], by decide⟩

def taldorf : GemeindeInfo where
  anzeigename := "Taldorf"
  strassen := ⟨[("dorfweg", "Dorfweg")], by decide⟩

def talkontext : ParserKontext where
  gemeinden := ⟨[("bergdorf", bergdorf), ("taldorf", taldorf)], by decide⟩

def talkontextUmgestellt : ParserKontext where
  gemeinden := ⟨[("taldorf", taldorf), ("bergdorf", bergdorfUmgestellt)], by decide⟩

theorem Verzeichnis.Umgestellt.refl {α : Type} (v : Verzeichnis α) : v.Umgestellt v := List.Perm.refl _

theorem talkontext_umgestellt : talkontext.Umgestellt talkontextUmgestellt where
  gemeinden := ⟨[("taldorf", taldorf), ("bergdorf", bergdorf)], .swap .., .cons ⟨rfl, rfl, .refl _, .refl _, .refl _⟩
    (.cons ⟨rfl, rfl, .refl _, .swap .., .refl _⟩ .nil)⟩
  zeitzone := rfl

/-- A street of two municipalities, found by the one that is named. -/
theorem parseAlarm_umgestellt_talkontext :
    (parseAlarm standardSprache talkontext standardRegeln "Dorfweg Bergdorf").strasse = some "Dorfweg" ∧
      parseAlarm standardSprache talkontext standardRegeln "Dorfweg Bergdorf" =
        parseAlarm standardSprache talkontextUmgestellt standardRegeln "Dorfweg Bergdorf" :=
  ⟨by decide +kernel, parseAlarm_umgestellt standardSprache talkontext_umgestellt ⟨.refl _, .refl _, .refl _, rfl⟩ _⟩

end Beispiel

end Einsatzcockpit.Alarmtext
