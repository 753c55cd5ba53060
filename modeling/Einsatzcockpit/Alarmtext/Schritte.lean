import Einsatzcockpit.Alarmtext.Herkunft

namespace Einsatzcockpit.Alarmtext

namespace Herkunft

variable {result result' : AlarmParseResult} {sp : Textspannen} {feld : Verbraucher} {span : Spanne}

theorem setze_wert (herkunft : Herkunft result sp) (codes : result'.codes = result.codes) (freitext : result'.freitext = result.freitext)
    (werte : ∀ f, ∀ wert ∈ result'.werte f, wert ∈ result.werte f ∨ f = feld ∧ wert = sp.wert span) :
    Herkunft result' (sp.nimm feld span) where
  werte := fun f wert member => by
    rcases werte f wert member with old | ⟨rfl, rfl⟩
    · exact (herkunft.nimm feld span).werte f wert old
    · exact Textspannen.aus_nimm le_rfl le_rfl
  codes := codes ▸ (herkunft.nimm feld span).codes
  freitext := freitext ▸ (herkunft.nimm feld span).freitext

end Herkunft

section Freitext

variable {text : List Char} {spannen : Ortsspannen} {lauf : Lauf} {meldebild : Option String} {zusatzinfo : List String}

theorem Gut.teile (gut : Gut text spannen lauf)
    (freitext : ∀ wert ∈ meldebild.toList ++ zusatzinfo, ∃ i, lauf.sp.Aus (.abschnitt i) wert) :
    Gut text spannen { lauf with result := { lauf.result with meldebild, zusatzinfo } } :=
  gut.of_eq ⟨gut.herkunft.werte, gut.herkunft.codes, freitext⟩ rfl

end Freitext

section Kopf

variable (sprache : Sprache) (kontext : ParserKontext) (regeln : Regelsatz) {text : List Char} {spannen : Ortsspannen}
  {lauf lauf' : Lauf}

section

variable (gut : Gut text spannen lauf)
include gut

end

theorem orNone_some {value wert : String} (is : wert ∈ orNone (some value)) : wert = value := by
  simp [orNone, Option.filter] at is
  exact is.2.symm

theorem Textspannen.Aus.mono {sp : Textspannen} {feld : Verbraucher} {wert teil : String} (aus : sp.Aus feld wert)
    (inside : teil.toList <:+: wert.toList) : sp.Aus feld teil := by
  obtain ⟨e, taken, is, cut⟩ := aus
  exact ⟨e, taken, is, inside.trans cut⟩

end Kopf

section Ort

variable (sprache : Sprache) (kontext : ParserKontext) (regeln : Regelsatz) {text : List Char} {spannen : Ortsspannen}
  {lauf : Lauf}

theorem setze_none {feld : Ortsfeld} (absent : spannen.von feld = none) : spannen.setze feld none = spannen := by
  cases feld <;> rw [← absent] <;> rfl

section

variable (gut : Gut text spannen lauf)
include gut

theorem Gut.ruecknahme (feld : Ortsfeld) :
    Gut text (spannen.setze feld none) (ruecknahme lauf (feld, spannen.von feld)) := by
  have orte := gut.orte feld
  unfold Alarmtext.ruecknahme
  cases found : spannen.von feld with
  | none => rwa [setze_none found]
  | some span =>
    rw [found] at orte
    refine ⟨gut.text, gut.geordnet.gibFrei orte, ?_, fun feld' => ?_, fun feld' => ?_⟩
    · have kept : Herkunft lauf.result (lauf.sp.gibFrei feld span) := gut.herkunft.mono rfl fun e taken outside =>
        List.mem_filter.mpr ⟨taken, by simpa using outside feld⟩
      exact kept.of_eq (werte_setzeOrt ..) (codes_setzeOrt ..) (freitext_setzeOrt ..)
    · have entnahmen : (lauf.sp.gibFrei feld span).entnahmen = lauf.sp.entnahmen.filter (·.feld ≠ .ort feld) := rfl
      show (lauf.sp.gibFrei feld span).entnahmen.filter _ = _
      rw [von_setze, entnahmen, List.filter_filter]
      by_cases same : feld' = feld
      · subst same
        simp
      · have filtered : (lauf.sp.entnahmen.filter fun e => decide (e.feld = .ort feld') && decide (e.feld ≠ .ort feld)) =
            lauf.sp.entnahmen.filter (·.feld = .ort feld') := List.filter_congr fun e _ => by
          by_cases is : e.feld = .ort feld' <;> simp [is, same]
        rw [filtered, gut.orte, if_neg same]
    · rw [ort_setzeOrt, von_setze]
      split
      · exact fun some => some
      · exact gut.genannt feld'

end

end Ort

section Schluss

variable (sprache : Sprache) (kontext : ParserKontext) (regeln : Regelsatz) {text : List Char} {spannen : Ortsspannen}
  {lauf : Lauf}

theorem Gut.beginn {result : AlarmParseResult} (werte : ∀ feld, result.werte feld = []) (codes : ∀ feld, result.codes feld = [])
    (freitext : result.freitext = []) (ort : ∀ feld, result.ort feld = none) : Gut text {} { result, sp := { text } } where
  text := rfl
  geordnet := ⟨List.nodup_nil, fun i => by simp [Textspannen.genommen, Custody.held], nofun⟩
  herkunft := ⟨fun feld => by simp [werte], fun feld => by simp [codes], by simp [freitext]⟩
  orte := fun feld => by cases feld <;> rfl
  genannt := fun feld => by simp [ort]

end Schluss

end Einsatzcockpit.Alarmtext

namespace Einsatzcockpit.Alarmtext

open Custody

/-- Each place is taken by one step at most, what nobody took is the rest, what was
blocked is not taken, and the fields are made of what their own steps took. -/
structure Aufgeteilt (regeln : Regelsatz) (text : List Char) (sp : Textspannen) (result : AlarmParseResult) : Prop where
  text : sp.text = text
  einmal : sp.genommen.Nodup
  rest : result.restText = " ".intercalate
    ((words (String.ofList (ohne sp.text sp.genommen))).filter fun token => !regeln.unbedeutendMuster.fullmatch token.toList)
  gesperrt : ∀ i, sp.entzogen i = true → i ∉ sp.genommen
  herkunft : Herkunft result sp
  orte : ∀ feld, (result.ort feld).isSome → ∃ span, { feld := .ort feld, neu := stellen span } ∈ sp.entnahmen

theorem Textspannen.Geordnet.rest_eq {sp : Textspannen} (geordnet : sp.Geordnet) : sp.rest = ohne sp.text sp.genommen := by
  unfold Textspannen.rest ohne
  congr 1
  funext i c
  simp only [geordnet.belegt i]

theorem hausnummerHinweis_eq (result : AlarmParseResult) :
    ∃ hinweise, hausnummerHinweis result = { result with hinweise } := by
  unfold hausnummerHinweis
  split
  · exact ⟨_, rfl⟩
  · exact ⟨result.hinweise, rfl⟩

theorem wertung_eq (regeln : Regelsatz) (result : AlarmParseResult) :
    ∃ qualitaet status, wertung regeln result = { result with qualitaet, status } := by
  unfold wertung
  dsimp only
  split
  · exact ⟨_, _, rfl⟩
  · exact ⟨_, result.status, rfl⟩

theorem schluss_felder (regeln : Regelsatz) (lauf : Lauf) :
    (schluss regeln lauf).restText = restText regeln lauf.sp ∧ (schluss regeln lauf).werte = lauf.result.werte ∧
      (schluss regeln lauf).codes = lauf.result.codes ∧ (schluss regeln lauf).freitext = lauf.result.freitext ∧
      (schluss regeln lauf).ort = lauf.result.ort := by
  unfold schluss
  generalize restText regeln lauf.sp = rest
  obtain ⟨hinweise, noted⟩ := hausnummerHinweis_eq lauf.result
  rw [noted]
  obtain ⟨qualitaet, status, rated⟩ := wertung_eq regeln { lauf.result with hinweise, restText := rest }
  rw [rated]
  exact ⟨rfl, rfl, rfl, rfl, rfl⟩

theorem Gut.aufgeteilt {regeln : Regelsatz} {text : List Char} {spannen : Ortsspannen} {lauf : Lauf} (gut : Gut text spannen lauf) :
    Aufgeteilt regeln text lauf.sp (schluss regeln lauf) := by
  obtain ⟨rest, werte, codes, freitext, ort⟩ := schluss_felder regeln lauf
  refine ⟨gut.text, gut.geordnet.einmal, ?_, fun i blocked => (gut.geordnet.entzogen i blocked).2,
    gut.herkunft.of_eq werte codes freitext, fun feld named => ?_⟩
  · rw [rest, restText, gut.geordnet.rest_eq]
  · rw [ort] at named
    obtain ⟨span, found⟩ := Option.isSome_iff_exists.mp (gut.genannt feld named)
    have orte := gut.orte feld
    rw [found] at orte
    have member : { feld := .ort feld, neu := stellen span } ∈ lauf.sp.entnahmen.filter (·.feld = .ort feld) :=
      orte ▸ List.mem_cons_self
    exact ⟨span, (List.mem_filter.mp member).1⟩

end Einsatzcockpit.Alarmtext
