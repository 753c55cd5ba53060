import Einsatzcockpit.Alarmtext.Textspannen
import Mathlib.Data.List.Sort
import Mathlib.Data.List.Dedup

namespace Einsatzcockpit.Alarmtext

inductive Status where
  | unklar | teilweise | ok
  deriving DecidableEq

structure AlarmParseResult where
  originalText : String
  leitstellennummer : Option String := none
  stichwort : Option String := none
  alarmTypeCode : Option String := none
  weitereCodes : List String := []
  sonderkennzeichen : List String := []
  gemeinde : Option String := none
  ortsteil : Option String := none
  strasse : Option String := none
  hausnummer : Option String := none
  adresszusatz : Option String := none
  lagezusatz : Option String := none
  meldebild : Option String := none
  zusatzinfo : List String := []
  alarmzeit : Option Zeit := none
  restText : String := ""
  status : Status := .unklar
  qualitaet : Int := 0
  hinweise : List String := []
  parserVersion : String := "0"
  istUebung : Bool := false
  bma : List String := []
  melder : Option String := none
  melderbereich : Option String := none
  deriving DecidableEq

/-- The result and the text that `_parse` works on. -/
structure Lauf where
  result : AlarmParseResult
  sp : Textspannen

namespace Lauf

def hinweis (lauf : Lauf) (hinweise : List String) : Lauf :=
  { lauf with result := { lauf.result with hinweise := lauf.result.hinweise ++ hinweise } }

end Lauf

variable (sprache : Sprache) (kontext : ParserKontext) (regeln : Regelsatz)

/-- The number of a detector, or its area: read only, and blocked when there are
several. `none` where the pattern has no group and the code raises. -/
def melderfeld (name : String) (muster : Muster) (setze : Option String → AlarmParseResult → AlarmParseResult) (lauf : Lauf) : Option Lauf :=
  match muster.finditer lauf.sp.text with
  | [] => some lauf
  | [treffer] => treffer.gruppe.map fun gruppe => { lauf with result := setze gruppe lauf.result }
  | mehrere => some { lauf.hinweis [s!"{name}_mehrdeutig", "mehrdeutig"] with sp := lauf.sp.sperreAlle (mehrere.map Treffer.span) }

def parseMelder : Lauf → Option Lauf :=
  melderfeld "melder" regeln.melderMuster fun wert result => { result with melder := wert }

def parseMelderbereich : Lauf → Option Lauf :=
  melderfeld "melderbereich" regeln.melderbereichMuster fun wert result => { result with melderbereich := wert }

def parseZeit (lauf : Lauf) : Option Lauf :=
  match regeln.datumMuster.finditer lauf.sp.text with
  | [] => some lauf
  | [treffer] =>
    let klammern := stueck lauf.sp.text treffer.span
    match sprache.ortszeit kontext.zeitzone regeln.datumsformat (String.ofList (klammern.drop 1).dropLast) with
    | .zeit zeit => some { result := { lauf.result with alarmzeit := some zeit }, sp := lauf.sp.nimm .alarmzeit treffer.span }
    | .ungueltig => some { lauf.hinweis ["alarmzeit_ungueltig"] with sp := lauf.sp.sperre treffer.span }
    | .fehler => none
  | mehrere => some { lauf.hinweis ["alarmzeit_mehrdeutig", "mehrdeutig"] with sp := lauf.sp.sperreAlle (mehrere.map Treffer.span) }

def parseLeitstellennummer (lauf : Lauf) : Lauf × Nat :=
  match regeln.leitstellennummerMuster.anfang lauf.sp.text with
  | none => (lauf, 0)
  | some ende =>
    ({ result := { lauf.result with leitstellennummer := some (lauf.sp.wert (0, ende)) }
       sp := lauf.sp.nimm .leitstellennummer (0, ende) }, ende)

inductive Codefeld where
  | stichwort | weitereCodes | sonderkennzeichen
  deriving DecidableEq

def codefeld (value : List Char) : Option Codefeld :=
  if regeln.stichwortMuster.fullmatch value then some .stichwort
  else if regeln.weitereCodeMuster.fullmatch value then some .weitereCodes
  else if regeln.sonderkennzeichenMuster.fullmatch value then some .sonderkennzeichen
  else none

def kopf (text : List Char) : List Spanne → List (Codefeld × Spanne)
  | [] => []
  | span :: rest =>
    match codefeld regeln (stueck text span) with
    | none => []
    | some feld => (feld, span) :: kopf text rest

def parseCode (mehrere : Bool) (lauf : Lauf) (code : Codefeld × Spanne) : Lauf :=
  let value := String.ofList (stueck lauf.sp.text code.2)
  match code.1 with
  | .stichwort =>
    if mehrere then { lauf with sp := lauf.sp.sperre code.2 }
    else
      { result := { lauf.result with stichwort := some value, alarmTypeCode := some (mapStichwort sprache value) }
        sp := lauf.sp.nimm .stichwort code.2 }
  | .weitereCodes =>
    { result := { lauf.result with weitereCodes := lauf.result.weitereCodes ++ [value] }, sp := lauf.sp.nimm .weitereCodes code.2 }
  | .sonderkennzeichen =>
    { result := { lauf.result with sonderkennzeichen := lauf.result.sonderkennzeichen ++ [value] }
      sp := lauf.sp.nimm .sonderkennzeichen code.2 }

def parseKopf (pos : Nat) (lauf : Lauf) : Lauf :=
  let codes := kopf regeln lauf.sp.text (tokens (fun c => isSpace c || c == ',') (lauf.sp.text.drop pos) pos none)
  let mehrere := 1 < codes.countP fun code => code.1 == .stichwort
  codes.foldl (parseCode sprache mehrere) (if mehrere then lauf.hinweis ["stichwort_mehrdeutig", "mehrdeutig"] else lauf)

/-- A segment behind a separator: the first is the report, the others are additions. -/
def parseAbschnitt (lauf : Lauf) (abschnitt : Spanne × Nat) : Lauf :=
  let (span, i) := abschnitt
  let wert := lauf.sp.wert (span.1 + regeln.trennzeichen.length, span.2)
  let sp := lauf.sp.nimm (.abschnitt i) span
  if i = 0 then { result := { lauf.result with meldebild := orNone (some wert) }, sp }
  else if wert = "" then { lauf with sp }
  else { result := { lauf.result with zusatzinfo := lauf.result.zusatzinfo ++ [wert] }, sp }

/-- Segments, or the report from the first phrase that is known to begin one. -/
def parseMeldebild (lauf : Lauf) : Lauf :=
  match vorkommen regeln.trennzeichen.toList lauf.sp.arbeitskopie 0 0 with
  | [] =>
    match (regeln.meldebildPhrasen.flatMap fun phrase => (lauf.sp.phrasen (vergleichsform sprache) phrase).map (·.1)).min? with
    | none => lauf
    | some start =>
      let span := (start, lauf.sp.text.length)
      { result := { lauf.result with meldebild := some (lauf.sp.wert span) }, sp := lauf.sp.nimm (.abschnitt 0) span }
  | start :: starts =>
    let grenzen := (start :: starts).zip (starts ++ [lauf.sp.text.length])
    grenzen.zipIdx.foldl (parseAbschnitt regeln) lauf

def teileMeldebild (lauf : Lauf) : Lauf :=
  match orNone lauf.result.meldebild with
  | none => lauf
  | some meldebild =>
    let bild : Textspannen := { text := meldebild.toList }
    let starts := (regeln.zusatzPhrasen.flatMap fun phrase => (bild.phrasen (vergleichsform sprache) phrase).map (·.1)) ++
      (regeln.zusatzMuster.finditer bild.text).map (·.start)
    match starts.min? with
    | none => lauf
    | some start =>
      { lauf with result := { lauf.result with
          zusatzinfo := strip (String.ofList (bild.text.drop start)) :: lauf.result.zusatzinfo
          meldebild := orNone (some (strip (String.ofList (bild.text.take start)))) } }

def setzeOrt (feld : Ortsfeld) (wert : Option String) (result : AlarmParseResult) : AlarmParseResult :=
  match feld with
  | .gemeinde => { result with gemeinde := wert }
  | .ortsteil => { result with ortsteil := wert }
  | .strasse => { result with strasse := wert }

def norm (feld : Ortsfeld) : String → String :=
  match feld with
  | .strasse => adressvergleich sprache
  | _ => vergleichsform sprache

def kandidatenVon (sp : Textspannen) (feld : Ortsfeld) (aliase : List (String × String)) (eintrag : String × String) :
    List (Spanne × String) :=
  let (key, anzeige) := eintrag
  let andere := aliase.filter fun (_, ziel) =>
    vergleichsform sprache ziel == vergleichsform sprache key || vergleichsform sprache ziel == vergleichsform sprache anzeige
  (key :: anzeige :: andere.map (·.1)).flatMap fun name => (sp.phrasen (norm sprache feld) name).map fun span => (span, anzeige)

def verschachtelt (kandidaten : List (Spanne × String)) (span : Spanne) : Bool :=
  kandidaten.any fun (other, _) => other ≠ span && decide (other.1 ≤ span.1) && decide (span.2 ≤ other.2)

/-- The nested function `katalog`. -/
def katalog (feld : Ortsfeld) (werte aliase : List (String × String)) (lauf : Lauf) : Lauf × Option Spanne :=
  let kandidaten := werte.flatMap (kandidatenVon sprache lauf.sp feld aliase)
  let laengste := kandidaten.filter fun (span, _) => !verschachtelt kandidaten span
  if kandidaten = [] then (lauf, none)
  else
    match laengste.dedup with
    | [(span, anzeige)] =>
      ({ result := setzeOrt feld (some anzeige) lauf.result, sp := lauf.sp.nimm (.ort feld) span }, some span)
    | mehrere =>
      ({ lauf.hinweis [s!"{feld.name}_mehrdeutig", "mehrdeutig"] with sp := lauf.sp.sperreAlle (mehrere.map (·.1)) }, none)

def strassenspannen (sp : Textspannen) (info : GemeindeInfo) : List Spanne :=
  let werte := info.strassen.oder info.objekte
  let namen := werte.map (·.1) ++ werte.map (·.2)
  let andere := regeln.strassenAliase.eintraege.filter fun (_, ziel) =>
    (werte.map fun (name, _) => adressvergleich sprache name).contains (adressvergleich sprache ziel)
  (namen ++ andere.map (·.1)).flatMap fun name => sp.phrasen (adressvergleich sprache) name

structure Ortsspannen where
  gemeinde : Option Spanne := none
  ortsteil : Option Spanne := none
  strasse : Option Spanne := none

/-- The street of a text that names no municipality: it has to be in one only. -/
def parseStrasse (lauf : Lauf) : Lauf × Option Spanne :=
  let passende := (kontext.gemeinden.eintraege.map (·.2)).filter fun info => !(strassenspannen sprache regeln lauf.sp info).isEmpty
  match passende with
  | [] => (lauf, none)
  | [info] => katalog sprache .strasse (info.strassen.oder info.objekte) regeln.strassenAliase.eintraege lauf
  | mehrere =>
    ({ lauf.hinweis ["strasse_mehrdeutig", "mehrdeutig"] with
        sp := lauf.sp.sperreAlle (mehrere.flatMap (strassenspannen sprache regeln lauf.sp)) }, none)

def parseGemeinde (lauf : Lauf) : Lauf × Option Spanne :=
  katalog sprache .gemeinde (kontext.gemeinden.eintraege.map fun x => (x.1, x.2.anzeigename)) regeln.gemeindeAliase.eintraege lauf

def parseOrtIn (info : GemeindeInfo) (lauf : Lauf) : Lauf × Option Spanne × Option Spanne :=
  let ortsteil := katalog sprache .ortsteil info.ortsteile.eintraege regeln.ortsteilAliase.eintraege lauf
  let strasse := katalog sprache .strasse (info.strassen.oder info.objekte) regeln.strassenAliase.eintraege ortsteil.1
  (strasse.1, ortsteil.2, strasse.2)

def parseOrt (lauf : Lauf) : Lauf × Ortsspannen :=
  let gemeinde := parseGemeinde sprache kontext regeln lauf
  let result := gemeinde.1.result
  match (kontext.gemeinden.eintraege.map (·.2)).filter fun info => some info.anzeigename == result.gemeinde with
  | [info] =>
    let ort := parseOrtIn sprache regeln info gemeinde.1
    (ort.1, { gemeinde := gemeinde.2, ortsteil := ort.2.1, strasse := ort.2.2 })
  | _ =>
    if orNone result.gemeinde = none ∧ "gemeinde_mehrdeutig" ∉ result.hinweise then
      let strasse := parseStrasse sprache kontext regeln gemeinde.1
      (strasse.1, { gemeinde := gemeinde.2, strasse := strasse.2 })
    else (gemeinde.1, { gemeinde := gemeinde.2 })

def parseStruktur (lauf : Lauf) : Lauf :=
  let nimm := fun (lauf : Lauf) (treffer : Treffer) =>
    if lauf.sp.frei treffer.span then { lauf with sp := lauf.sp.nimm .struktur treffer.span } else lauf
  [sprache.bmaRegex, regeln.melderMuster, regeln.melderbereichMuster].foldl
    (fun lauf muster => (muster.finditer lauf.sp.text).foldl nimm lauf) lauf

def reihenfolge (spannen : Ortsspannen) : List Ortsfeld :=
  let gefunden := [(Ortsfeld.gemeinde, spannen.gemeinde), (.ortsteil, spannen.ortsteil), (.strasse, spannen.strasse)].filterMap
    fun (feld, span) => span.map fun span => (span.1, feld)
  (gefunden.insertionSort fun a b => a.1 < b.1 ∨ (a.1 = b.1 ∧ a.2.name ≤ b.2.name)).map (·.2)

def ruecknahme (lauf : Lauf) (feld : Ortsfeld × Option Spanne) : Lauf :=
  match feld.2 with
  | none => lauf
  | some span => { result := setzeOrt feld.1 none lauf.result, sp := lauf.sp.gibFrei feld.1 span }

def parseReihenfolge (spannen : Ortsspannen) (lauf : Lauf) : Lauf × Option Spanne :=
  let gefunden := reihenfolge spannen
  if gefunden ≠ [] ∧ ¬ regeln.reihenfolgeVarianten.any fun variante => variante.filter (· ∈ gefunden) == gefunden then
    let lauf := [(Ortsfeld.gemeinde, spannen.gemeinde), (.ortsteil, spannen.ortsteil), (.strasse, spannen.strasse)].foldl ruecknahme lauf
    (lauf.hinweis ["reihenfolge_unbekannt"], none)
  else (lauf, spannen.strasse)

def zusatztreffer (muster : Muster) (sp : Textspannen) : List Spanne :=
  let tokens := tokens isSpace sp.arbeitskopie 0 none
  (tokens.zipIdx).flatMap fun (token, i) =>
    (((tokens.drop i).take 8).map fun ende => (token.1, ende.2)).filter fun span =>
      sp.frei span && muster.fullmatch (vergleichsform sprache (String.ofList (stueck sp.text span))).toList

def davor (sp : Textspannen) (start : Nat) : Nat :=
  let grenze := (((List.range start).filter fun i => sp.belegt i || sp.gesperrt i).map (· + 1)).max?.getD 0
  match (stueck sp.arbeitskopie (grenze, start)).findIdx? fun c => !isSpace c with
  | some vorher => grenze + vorher
  | none => start

def parseAdresszusatz (lauf : Lauf) : Lauf :=
  match zusatztreffer sprache regeln.adresszusatzMuster lauf.sp with
  | [] => lauf
  | [span] =>
    { result := { lauf.result with adresszusatz := some (lauf.sp.wert span) }, sp := lauf.sp.nimm .adresszusatz span }
  | _ => lauf.hinweis ["mehrdeutig"]

def parseLagezusatz (lauf : Lauf) : Lauf :=
  match zusatztreffer sprache regeln.lagezusatzMuster lauf.sp with
  | [] => lauf
  | [(start, stop)] =>
    let span := (if (orNone lauf.result.ortsteil).isNone then davor lauf.sp start else start, stop)
    { result := { lauf.result with lagezusatz := some (lauf.sp.wert span) }, sp := lauf.sp.nimm .lagezusatz span }
  | _ => lauf.hinweis ["mehrdeutig"]

def parseHausnummer (strasse : Option Spanne) (lauf : Lauf) : Lauf :=
  match strasse with
  | none => lauf
  | some strasse =>
    match tokens isSpace (lauf.sp.arbeitskopie.drop strasse.2) strasse.2 none with
    | [] => lauf
    | span :: _ =>
      if regeln.hausnummerMuster.fullmatch (stueck lauf.sp.arbeitskopie span) then
        { result := { lauf.result with hausnummer := some (lauf.sp.wert span) }, sp := lauf.sp.nimm .hausnummer span }
      else lauf

/-- `getattr(result, name, None)`, as a condition. -/
def hat (result : AlarmParseResult) (name : String) : Bool :=
  match name with
  | "original_text" => result.originalText ≠ ""
  | "leitstellennummer" => (orNone result.leitstellennummer).isSome
  | "stichwort" => (orNone result.stichwort).isSome
  | "alarm_type_code" => (orNone result.alarmTypeCode).isSome
  | "weitere_codes" => !result.weitereCodes.isEmpty
  | "sonderkennzeichen" => !result.sonderkennzeichen.isEmpty
  | "gemeinde" => (orNone result.gemeinde).isSome
  | "ortsteil" => (orNone result.ortsteil).isSome
  | "strasse" => (orNone result.strasse).isSome
  | "hausnummer" => (orNone result.hausnummer).isSome
  | "adresszusatz" => (orNone result.adresszusatz).isSome
  | "lagezusatz" => (orNone result.lagezusatz).isSome
  | "meldebild" => (orNone result.meldebild).isSome
  | "zusatzinfo" => !result.zusatzinfo.isEmpty
  | "alarmzeit" => result.alarmzeit.isSome
  | "rest_text" => result.restText ≠ ""
  | "status" => true
  | "qualitaet" => result.qualitaet ≠ 0
  | "hinweise" => !result.hinweise.isEmpty
  | "parser_version" => result.parserVersion ≠ ""
  | "ist_uebung" => result.istUebung
  | "bma" => !result.bma.isEmpty
  | "melder" => (orNone result.melder).isSome
  | "melderbereich" => (orNone result.melderbereich).isSome
  | "to_dict" => true
  | _ => false

def restText (sp : Textspannen) : String :=
  " ".intercalate ((words (String.ofList sp.rest)).filter fun token => !regeln.unbedeutendMuster.fullmatch token.toList)

def hatOrt (result : AlarmParseResult) : Bool := hat result "gemeinde" || hat result "strasse"

def hausnummerHinweis (result : AlarmParseResult) : AlarmParseResult :=
  if hatOrt result && !hat result "hausnummer" then { result with hinweise := result.hinweise ++ ["hausnummer_fehlt"] } else result

def wertung (result : AlarmParseResult) : AlarmParseResult :=
  let gewicht := ((regeln.qualitaetsgewichte.filter fun (name, _) => hat result name).map (·.2)).sum
  let result := { result with qualitaet := min 100 gewicht }
  if hat result "leitstellennummer" && hat result "stichwort" then
    { result with
      status := if hatOrt result && hat result "alarmzeit" && !hat result "rest_text" && !result.hinweise.contains "mehrdeutig" then .ok
        else .teilweise }
  else result

def schluss (lauf : Lauf) : AlarmParseResult :=
  wertung regeln { hausnummerHinweis lauf.result with restText := restText regeln lauf.sp }

/-- `finde_bma_nummern` -/
def findeBmaNummern (text : List Char) : List String :=
  ((sprache.bmaRegex.finditer text).filterMap fun treffer => treffer.gruppe.join).foldl
    (fun gefunden nummer => if nummer ∈ gefunden then gefunden else gefunden ++ [nummer]) []

def parseKopfteil (rawText : String) : Option Lauf := do
  let text := (normalisiere sprache rawText).toList
  let start : Lauf := {
    result := {
      originalText := rawText, parserVersion := regeln.version, istUebung := sprache.uebung text
      bma := findeBmaNummern sprache text }
    sp := { text } }
  let lauf ← parseMelder regeln start
  let lauf ← parseMelderbereich regeln lauf
  let lauf ← parseZeit sprache kontext regeln lauf
  let nummer := parseLeitstellennummer regeln lauf
  return teileMeldebild sprache regeln (parseMeldebild sprache regeln (parseKopf sprache regeln nummer.2 nummer.1))

def parseSchlussteil (spannen : Ortsspannen) (lauf : Lauf) : Lauf :=
  let (lauf, strasse) := parseReihenfolge regeln spannen (parseStruktur sprache regeln lauf)
  parseHausnummer regeln strasse (parseLagezusatz sprache regeln (parseAdresszusatz sprache regeln lauf))

/-- The text and the result at the end of `_parse`. -/
def parse (rawText : String) : Option Lauf :=
  (parseKopfteil sprache kontext regeln rawText).map fun lauf =>
    let (lauf, spannen) := parseOrt sprache kontext regeln lauf
    parseSchlussteil sprache regeln spannen lauf

/-- `parse_alarm` -/
def parseAlarm (rawText : String) : AlarmParseResult :=
  match parse sprache kontext regeln rawText with
  | some lauf => schluss regeln lauf
  | none => {
    originalText := rawText, restText := normalisiere sprache rawText, hinweise := ["parser_fehler"], parserVersion := regeln.version }

end Einsatzcockpit.Alarmtext
