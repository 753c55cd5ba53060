import Einsatzcockpit.Lis.Matching

/-! The rules and the catalogue of the alarm parser, `alarm_parser`. -/

namespace Einsatzcockpit.Alarmtext

abbrev Spanne := Nat × Nat

/-- A match of a pattern with its first group: nothing when the pattern has
none, `some none` when the group took no part. -/
structure Treffer where
  start : Nat
  ende : Nat
  gruppe : Option (Option String) := none

def Treffer.span (treffer : Treffer) : Spanne := (treffer.start, treffer.ende)

/-- A pattern, by what `re.finditer`, `re.match` and `re.fullmatch` find with it. -/
structure Muster where
  finditer : List Char → List Treffer
  anfang : List Char → Option Nat
  fullmatch : List Char → Bool

structure Verzeichnis (α : Type) where
  eintraege : List (String × α)
  einmal : (eintraege.map (·.1)).Nodup

namespace Verzeichnis

variable {α : Type}

def leer : Verzeichnis α := ⟨[], List.nodup_nil⟩

def get? (v : Verzeichnis α) (key : String) : Option α := v.eintraege.lookup key

/-- `a | b` -/
def oder (a b : Verzeichnis α) : List (String × α) :=
  a.eintraege.map (fun (key, wert) => (key, (b.get? key).getD wert)) ++ b.eintraege.filter fun (key, _) => (a.get? key).isNone

end Verzeichnis

structure GemeindeInfo where
  anzeigename : String
  ortsteile : Verzeichnis String := .leer
  strassen : Verzeichnis String := .leer
  objekte : Verzeichnis String := .leer

structure ParserKontext where
  gemeinden : Verzeichnis GemeindeInfo := .leer
  zeitzone : String := "Europe/Vienna"

inductive Ortsfeld where
  | gemeinde | ortsteil | strasse
  deriving DecidableEq

def Ortsfeld.name : Ortsfeld → String
  | gemeinde => "gemeinde"
  | ortsteil => "ortsteil"
  | strasse => "strasse"

structure Regelsatz where
  version : String := "0"
  leitstellennummerMuster : Muster
  stichwortMuster : Muster
  sonderkennzeichenMuster : Muster
  weitereCodeMuster : Muster
  trennzeichen : String := ">"
  datumMuster : Muster
  datumsformat : String := "%d.%m.%Y %H:%M Uhr"
  gemeindeAliase : Verzeichnis String := .leer
  ortsteilAliase : Verzeichnis String := .leer
  strassenAliase : Verzeichnis String := .leer
  meldebildPhrasen : List String := ["patientenrettung aus"]
  zusatzPhrasen : List String := ["rettung vor ort"]
  zusatzMuster : Muster
  adresszusatzMuster : Muster
  lagezusatzMuster : Muster
  hausnummerMuster : Muster
  melderMuster : Muster
  melderbereichMuster : Muster
  reihenfolgeVarianten : List (List Ortsfeld) :=
    [[.gemeinde, .ortsteil, .strasse], [.strasse, .gemeinde], [.ortsteil, .gemeinde, .strasse]]
  qualitaetsgewichte : List (String × Int) :=
    [("leitstellennummer", 25), ("stichwort", 25), ("gemeinde", 20), ("strasse", 10), ("alarmzeit", 15), ("meldebild", 5)]
  unbedeutendMuster : Muster

/-- A local date in UTC: `ungueltig` for a `ValueError` or a `KeyError` (a date that
the format does not read, a zone that does not exist, an hour of the clock change),
`fehler` for any other error. -/
inductive Ortszeit where
  | zeit (utc : Zeit)
  | ungueltig
  | fehler

/-- What the parser takes from the language: `str.lower`, the control characters,
the decimal digits, the time of a local date, and the two patterns it shares with
other parts, for the number of a fire alarm system and for an exercise. -/
structure Sprache where
  lower : String → String
  steuerzeichen : Char → Bool
  ziffer : Char → Bool
  ortszeit : String → String → String → Ortszeit
  bmaRegex : Muster
  uebung : List Char → Bool

variable (sprache : Sprache)

/-- `normalisiere` -/
def normalisiere (text : String) : String :=
  " ".intercalate (words (String.ofList (text.toList.filterMap fun c =>
    if isSpace c then some ' ' else if sprache.steuerzeichen c then none else some c)))

def vergleichsform (text : String) : String := Lis.normalizeText sprache.lower (some (normalisiere sprache text))

def adressvergleich (text : String) : String := Lis.normalizeAddress sprache.lower (some (normalisiere sprache text)) none

/-- `_STUFE_MAP` -/
def stufeMap : List (String × String) :=
  [("f1", "F1"), ("f2", "F2"), ("f3", "F3"), ("f4", "F4"), ("f5", "F5"), ("f10", "F10"), ("f11", "F11"), ("f14", "F14"),
    ("f21", "F21"), ("f30", "F30"), ("t1", "T1"), ("t2", "T2"), ("t3", "T3"), ("t4", "T4"), ("t5", "T5"), ("t6", "T6"),
    ("t7", "T7"), ("t21", "T21"), ("1", "T1"), ("2", "T2"), ("3", "T3"), ("4", "T4"), ("6", "T6"), ("7", "T7"),
    ("t9", "T9"), ("9", "T9")]

/-- `[tf]\d{1,2}` as a whole text. -/
def codeEnde (text : List Char) : Bool :=
  match text with
  | c :: ziffern => (c == 't' || c == 'f') && ziffern.length ∈ [1, 2] && ziffern.all sprache.ziffer
  | [] => false

/-- `map_stichwort` -/
def mapStichwort (lisTypeCode : String) : String :=
  if lisTypeCode = "" then "T1"
  else
    let normalized := sprache.lower (strip lisTypeCode)
    let key := (normalized.toList.tails.find? (codeEnde sprache)).map String.ofList
    (stufeMap.lookup (key.getD normalized)).getD "T1"

/-- The spans of the longest pieces without a separator: `\S+` for blanks. -/
def tokens (trenner : Char → Bool) : List Char → Nat → Option Nat → List Spanne
  | [], _, none => []
  | [], pos, some start => [(start, pos)]
  | c :: rest, pos, none => tokens trenner rest (pos + 1) (if trenner c then none else some pos)
  | c :: rest, pos, some start =>
    if trenner c then (start, pos) :: tokens trenner rest (pos + 1) none else tokens trenner rest (pos + 1) (some start)

/-- `text[start:ende]` -/
def stueck (text : List Char) (span : Spanne) : List Char := (text.take span.2).drop span.1

def vorkommen (nadel : List Char) : List Char → Nat → Nat → List Nat
  | [], _, _ => []
  | c :: rest, pos, 0 =>
    if nadel.isPrefixOf (c :: rest) then pos :: vorkommen nadel rest (pos + 1) (nadel.length - 1)
    else vorkommen nadel rest (pos + 1) 0
  | _ :: rest, pos, rest' + 1 => vorkommen nadel rest (pos + 1) rest'

def Muster.ganz (fullmatch : List Char → Bool) : Muster := { finditer := fun _ => [], anfang := fun _ => none, fullmatch }

/-- The length of `wort\s{1,5}zeichen+` at the beginning, and where its group starts. -/
def angabeLaenge (wort : List Char) (zeichen : Char → Bool) (rest : List Char) : Option (Nat × Nat) :=
  if (rest.take wort.length).map Char.toLower = wort then
    let luecke := ((rest.drop wort.length).takeWhile isSpace).length
    let gruppe := ((rest.drop (wort.length + luecke)).takeWhile zeichen).length
    if 1 ≤ luecke ∧ luecke ≤ 5 ∧ 1 ≤ gruppe then some (wort.length + luecke + gruppe, wort.length + luecke) else none
  else none

/-- `\bwort\s{1,5}(zeichen+)` -/
def Muster.angabe (wort : String) (zeichen : Char → Bool) : Muster where
  finditer text := (List.range text.length).filterMap fun i =>
    if (text.take i).getLast?.any fun c => c.isAlphanum || c == '_' then none
    else (angabeLaenge wort.toList zeichen (text.drop i)).map fun (laenge, vorn) =>
      { start := i, ende := i + laenge, gruppe := some (some (String.ofList (stueck text (i + vorn, i + laenge)))) }
  anfang _ := none
  fullmatch _ := false

/-- A code of a letter and one or two digits, `[ft]\d{1,2}`. -/
def standardStichwort (text : List Char) : Bool :=
  match text with
  | c :: ziffern => c.toLower ∈ ['f', 't'] && ziffern.length ∈ [1, 2] && ziffern.all Char.isDigit
  | [] => false

/-- The built-in rules for texts without a time, a number of the dispatch centre, a
special code and an addition: there the other patterns find nothing. -/
def standardRegeln : Regelsatz where
  leitstellennummerMuster := .ganz fun _ => false
  stichwortMuster := .ganz standardStichwort
  sonderkennzeichenMuster := .ganz fun _ => false
  weitereCodeMuster := .ganz fun _ => false
  datumMuster := .ganz fun _ => false
  zusatzMuster := .ganz fun _ => false
  adresszusatzMuster := .ganz fun _ => false
  lagezusatzMuster := .ganz fun _ => false
  hausnummerMuster := .ganz fun text => 1 ≤ text.length && text.length ≤ 5 && text.all Char.isDigit
  melderMuster := .angabe "melder" fun c => c.isDigit || c ∈ ['/', '.', '-']
  melderbereichMuster := .angabe "melderbereich" fun c => c.isAlphanum || c ∈ ['_', '/', '.', '-']
  unbedeutendMuster := .ganz fun text => text ≠ [] && text.all fun c => isSpace c || c ∈ [',', ';', ':', '.', '-']

def standardSprache : Sprache where
  lower s := String.ofList (s.toList.map Char.toLower)
  steuerzeichen c := c.toNat < 32
  ziffer := Char.isDigit
  ortszeit _ _ _ := .ungueltig
  bmaRegex := .ganz fun _ => false
  uebung _ := false

end Einsatzcockpit.Alarmtext

namespace Einsatzcockpit.Alarmtext

inductive Verbraucher where
  | alarmzeit | leitstellennummer | stichwort | weitereCodes | sonderkennzeichen | abschnitt (i : Nat)
  | ort (feld : Ortsfeld) | struktur | adresszusatz | lagezusatz | hausnummer
  deriving DecidableEq

/-- What a step has taken: the places that were free until then. -/
structure Entnahme where
  feld : Verbraucher
  neu : List Nat

/-- The text with the places that are taken or blocked. For the record only:
`entnahmen`, what the steps have taken, and `entzogen`, the places that were free
when they were blocked. -/
structure Textspannen where
  text : List Char
  belegt : Nat → Bool := fun _ => false
  gesperrt : Nat → Bool := fun _ => false
  entnahmen : List Entnahme := []
  entzogen : Nat → Bool := fun _ => false

def stellen (span : Spanne) : List Nat := List.range' span.1 (span.2 - span.1)

def inSpanne (span : Spanne) (i : Nat) : Bool := decide (span.1 ≤ i) && decide (i < span.2)

namespace Textspannen

variable (sp : Textspannen)

def frei (span : Spanne) : Bool := (stellen span).all fun i => !sp.belegt i && !sp.gesperrt i

def sperre (span : Spanne) : Textspannen :=
  { sp with
    gesperrt := fun i => sp.gesperrt i || inSpanne span i
    entzogen := fun i => sp.entzogen i || (inSpanne span i && !sp.belegt i) }

def sperreAlle (spans : List Spanne) : Textspannen := spans.foldl sperre sp

/-- `rest(arbeitskopie=True)` -/
def arbeitskopie : List Char := sp.text.mapIdx fun i c => if sp.belegt i || sp.gesperrt i then ' ' else c

/-- `rest()` -/
def rest : List Char := sp.text.mapIdx fun i c => if sp.belegt i then ' ' else c

/-- The text that `nimm` returns. -/
def wert (span : Spanne) : String := strip (String.ofList (stueck sp.arbeitskopie span))

def neu (span : Spanne) : List Nat := (stellen span).filter fun i => !sp.gesperrt i && !sp.belegt i

/-- What `nimm` marks. -/
def nimm (feld : Verbraucher) (span : Spanne) : Textspannen :=
  { sp with
    belegt := fun i => sp.belegt i || (inSpanne span i && !sp.gesperrt i)
    entnahmen := sp.entnahmen ++ [{ feld, neu := sp.neu span }] }

def gibFrei (feld : Ortsfeld) (span : Spanne) : Textspannen :=
  { sp with
    belegt := fun i => sp.belegt i && !inSpanne span i
    entnahmen := sp.entnahmen.filter fun e => e.feld ≠ .ort feld }

/-- The places of a phrase in the comparison form `norm`. -/
def phrasen (norm : String → String) (phrase : String) : List Spanne :=
  let ziel := norm phrase
  if ziel = "" then []
  else
    let tokens := tokens isSpace sp.text 0 none
    (tokens.zipIdx).flatMap fun (token, i) =>
      (((tokens.drop i).take ((words ziel).length + 2)).map fun ende => (token.1, ende.2)).filter fun span =>
        sp.frei span && norm (String.ofList (stueck sp.text span)) == ziel

end Textspannen

end Einsatzcockpit.Alarmtext
