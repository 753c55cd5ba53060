import Einsatzcockpit.Lib.Keyed
import Einsatzcockpit.Basis
import Mathlib.Data.List.Infix

/-! The incidents of an organisation as the LIS sync sees them, and the search
for the one that an operation means, `lis_mapping.py` and `lis_matching.py`. -/

namespace Einsatzcockpit.Lis

open Relational

inductive Status where
  | active | closed
  deriving DecidableEq

/-- The columns of an incident that the search reads and the sync writes. -/
structure Incident where
  id : Nat
  status : Status := .active
  alarmTypeCode : String
  startedAt : Option Zeit := none
  addressStreet : Option String := none
  addressNo : Option String := none
  addressCity : Option String := none
  reportText : Option String := none
  lisOperationId : Option String := none
  lisOperationNumber : Option String := none
  closedViaLisAuto : Bool := false
  lisAutoCloseLocked : Bool := false

/-- What the sync takes from outside: `str.lower`, and the alarm types that the
organisation knows. -/
structure Umgebung where
  lower : String → String
  bekannt : String → Bool

section Normalisieren

/-- `_UMLAUT_MAP` -/
def umlaut (c : Char) : List Char :=
  if c = 'ä' then ['a', 'e'] else if c = 'ö' then ['o', 'e'] else if c = 'ü' then ['u', 'e']
  else if c = 'ß' then ['s', 's'] else [c]

/-- The code points of `_PUNCT_RE`, in its order. -/
def satzzeichen : List Nat :=
  [0x2E, 0x2C, 0x3B, 0x3A, 0x21, 0x3F, 0x22, 0x27, 0x60, 0xB4, 0x28, 0x29, 0x5B, 0x5D, 0x7B, 0x7D, 0x2F, 0x5C, 0x3C,
    0x3E, 0x7C, 0x2D]

/-- `_normalize_text` -/
def normalizeText (lower : String → String) (value : Option String) : String :=
  match orNone value with
  | none => ""
  | some value =>
    let text := (lower (strip value)).toList.flatMap umlaut
    " ".intercalate (words (String.ofList (text.map fun c => if c.toNat ∈ satzzeichen then ' ' else c)))

/-- `_STREET_SUFFIX_MAP` -/
def streetSuffixMap : List (String × String) :=
  [("strasse", "strasse"), ("str", "strasse"), ("platz", "platz"), ("pl", "platz")]

/-- A token of `_expand_street_abbreviations`. -/
def expandToken (token : String) : String :=
  match streetSuffixMap.find? fun (abbr, _) => abbr.toList.isSuffixOf token.toList && 3 + abbr.length ≤ token.length with
  | some (abbr, full) => clip (token.length - abbr.length) token ++ full
  | none => token

/-- `_expand_street_abbreviations` -/
def expandStreetAbbreviations (text : String) : String :=
  " ".intercalate ((text.toList.splitOn ' ').map fun token => expandToken (String.ofList token))

/-- `normalize_address`, without a house number. -/
def normalizeAddress (lower : String → String) (street city : Option String) : String :=
  expandStreetAbbreviations (normalizeText lower (some (street.getD "" ++ " " ++ city.getD "")))

end Normalisieren

/-- The arguments of `find_matching_incident`. -/
structure Suche where
  alarmTypeCode : String
  street : Option String
  city : Option String
  startedAt : Option Zeit
  lisOperationId : Option String := none
  lisOperationNumber : Option String := none
  houseNo : Option String := none
  reportText : Option String := none
  windowHours : Int := 3

section Suchen

variable (lower : String → String) (suche : Suche)

/-- `_within_window` -/
def withinWindow (candidate : Incident) : Bool :=
  match suche.startedAt, candidate.startedAt with
  | some started, some other => |started - other| ≤ stunden suche.windowHours
  | _, _ => true

def gleicheAdresse (candidate : Incident) : Bool :=
  let targetAddress := normalizeAddress lower suche.street suche.city
  let targetHouse := normalizeText lower suche.houseNo
  let candHouse := normalizeText lower candidate.addressNo
  targetAddress ≠ "" ∧ withinWindow suche candidate ∧
    normalizeAddress lower candidate.addressStreet candidate.addressCity = targetAddress ∧
    ¬ (targetHouse ≠ "" ∧ candHouse ≠ "" ∧ targetHouse ≠ candHouse)

def imText (street report : String) : Bool :=
  5 ≤ street.length ∧ report ≠ "" ∧ street.toList <:+: report.toList

/-- A candidate of the fourth step: the street of one side in the report of the
other, unless both sides have an address. -/
def strasseImText (candidate : Incident) : Bool :=
  let targetAddress := normalizeAddress lower suche.street suche.city
  let candAddress := normalizeAddress lower candidate.addressStreet candidate.addressCity
  withinWindow suche candidate ∧ ¬ (targetAddress ≠ "" ∧ candAddress ≠ "") ∧
    (imText (normalizeText lower suche.street) (normalizeText lower candidate.reportText) ∨
      imText (normalizeText lower candidate.addressStreet) (normalizeText lower suche.reportText))

/-- `find_matching_incident`, in the order of its steps. -/
def findMatchingIncident (einsaetze : List Incident) : Option Incident :=
  let byId := (orNone suche.lisOperationId).bind fun id => einsaetze.find? (·.lisOperationId == some id)
  let byNumber := (orNone suche.lisOperationNumber).bind fun number =>
    einsaetze.find? (·.lisOperationNumber == some number)
  let candidates := einsaetze.filter fun i => i.status = .active ∧ i.alarmTypeCode = suche.alarmTypeCode
  byId.or (byNumber.or ((candidates.find? (gleicheAdresse lower suche)).or (candidates.find? (strasseImText lower suche))))

end Suchen

end Einsatzcockpit.Lis
