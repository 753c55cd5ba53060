import Einsatzcockpit.Lib.Custody
import Einsatzcockpit.Alarmtext.Parser

namespace Einsatzcockpit.Alarmtext

open Custody

theorem strip_isInfix (s : String) : (strip s).toList <:+: s.toList := by
  rw [strip, String.toList_ofList]
  have front : s.toList.dropWhile isSpace <:+: s.toList := (List.dropWhile_suffix isSpace).isInfix
  refine List.IsInfix.trans ?_ front
  rw [← List.reverse_infix, List.reverse_reverse]
  exact (List.dropWhile_suffix isSpace).isInfix

theorem stueck_isInfix (text : List Char) (span : Spanne) : stueck text span <:+: text :=
  (List.drop_suffix _ _).isInfix.trans (List.take_prefix _ _).isInfix

theorem stueck_congr {text text' : List Char} {span : Spanne} (same : ∀ i, inSpanne span i → text[i]? = text'[i]?) :
    stueck text span = stueck text' span := by
  apply List.ext_getElem?
  intro i
  simp only [stueck, List.getElem?_drop, List.getElem?_take]
  split
  · exact same _ (by simp [inSpanne]; omega)
  · rfl

theorem mem_stellen {span : Spanne} {i : Nat} : i ∈ stellen span ↔ inSpanne span i = true := by
  simp [stellen, inSpanne, List.mem_range'_1]
  omega

def nur (text : List Char) (stellen : List Nat) : List Char := text.mapIdx fun i c => if i ∈ stellen then c else ' '

def ohne (text : List Char) (stellen : List Nat) : List Char := text.mapIdx fun i c => if i ∈ stellen then ' ' else c

namespace Textspannen

variable (sp : Textspannen) (feld : Verbraucher) (span : Spanne)

def genommen : List Nat := held Entnahme.neu sp.entnahmen

def Aus (wert : String) : Prop := ∃ e ∈ sp.entnahmen, e.feld = feld ∧ wert.toList <:+: nur sp.text e.neu

/-- The value is a piece of the text, and a step has taken of it what was free. -/
def Wort (wert : String) : Prop :=
  ∃ e ∈ sp.entnahmen, e.feld = feld ∧ ∃ span, wert = String.ofList (stueck sp.text span) ∧ e.neu ⊆ stellen span

structure Geordnet : Prop where
  einmal : sp.genommen.Nodup
  belegt : ∀ i, sp.belegt i = true ↔ i ∈ sp.genommen
  entzogen : ∀ i, sp.entzogen i = true → sp.gesperrt i = true ∧ i ∉ sp.genommen

variable {sp feld span} {i : Nat} {wert : String}

theorem mem_neu : i ∈ sp.neu span ↔ inSpanne span i = true ∧ sp.gesperrt i = false ∧ sp.belegt i = false := by
  simp [neu, mem_stellen]

theorem Geordnet.nimm (geordnet : sp.Geordnet) : (sp.nimm feld span).Geordnet where
  einmal := by
    refine nodup_take geordnet.einmal ((List.nodup_range' _).filter _) fun i new taken => ?_
    have free := (mem_neu.mp new).2.2
    rw [(geordnet.belegt i).mpr taken] at free
    cases free
  belegt := fun i => by
    have belegt := geordnet.belegt i
    have taken : i ∈ (sp.nimm feld span).genommen ↔ i ∈ sp.genommen ∨ i ∈ sp.neu span := mem_take
    rw [taken, mem_neu, ← belegt]
    simp only [Textspannen.nimm, Bool.or_eq_true, Bool.and_eq_true, Bool.not_eq_true']
    cases sp.belegt i <;> simp
  entzogen := fun i blocked => by
    have old := geordnet.entzogen i blocked
    refine ⟨old.1, fun taken => ?_⟩
    rcases mem_take.mp taken with before | new
    · exact old.2 before
    · have open_ := (mem_neu.mp new).2.1
      rw [old.1] at open_
      cases open_

theorem Geordnet.sperre (geordnet : sp.Geordnet) : (sp.sperre span).Geordnet where
  einmal := geordnet.einmal
  belegt := geordnet.belegt
  entzogen := fun i blocked => by
    simp only [Textspannen.sperre, Bool.or_eq_true, Bool.and_eq_true, Bool.not_eq_true'] at blocked ⊢
    rcases blocked with old | ⟨inside, free⟩
    · exact ⟨.inl (geordnet.entzogen i old).1, (geordnet.entzogen i old).2⟩
    · refine ⟨.inr inside, fun taken => ?_⟩
      rw [(geordnet.belegt i).mpr taken] at free
      cases free

theorem Geordnet.sperreAlle (geordnet : sp.Geordnet) (spans : List Spanne) : (sp.sperreAlle spans).Geordnet := by
  unfold Textspannen.sperreAlle
  induction spans generalizing sp with
  | nil => exact geordnet
  | cons span rest ih => exact ih geordnet.sperre

@[simp] theorem entnahmen_sperreAlle (spans : List Spanne) : (sp.sperreAlle spans).entnahmen = sp.entnahmen := by
  unfold Textspannen.sperreAlle
  induction spans generalizing sp with
  | nil => rfl
  | cons span rest ih => exact ih

@[simp] theorem text_sperreAlle (spans : List Spanne) : (sp.sperreAlle spans).text = sp.text := by
  unfold Textspannen.sperreAlle
  induction spans generalizing sp with
  | nil => rfl
  | cons span rest ih => exact ih

theorem Geordnet.gibFrei {ort : Ortsfeld} (geordnet : sp.Geordnet)
    (only : sp.entnahmen.filter (·.feld = .ort ort) = [{ feld := .ort ort, neu := stellen span }]) :
    (sp.gibFrei ort span).Geordnet := by
  have released : ∀ i, i ∈ (sp.gibFrei ort span).genommen ↔ i ∈ sp.genommen ∧ i ∉ stellen span := fun i =>
    mem_release geordnet.einmal (fun e => decide (e.feld ≠ .ort ort)) (by simpa using only)
  refine ⟨nodup_release geordnet.einmal _, fun i => ?_, fun i blocked => ?_⟩
  · rw [released, mem_stellen, ← geordnet.belegt]
    simp [Textspannen.gibFrei]
  · have old := geordnet.entzogen i blocked
    exact ⟨old.1, fun taken => old.2 ((released i).mp taken).1⟩

theorem aus_nimm {innen : Spanne} (start : span.1 ≤ innen.1) (ende : innen.2 ≤ span.2) :
    (sp.nimm feld span).Aus feld (sp.wert innen) := by
  refine ⟨{ feld, neu := sp.neu span }, List.mem_append_right _ List.mem_cons_self, rfl, ?_⟩
  have same : stueck sp.arbeitskopie innen = stueck (nur sp.text (sp.neu span)) innen := by
    refine stueck_congr fun i inside => ?_
    have outer : inSpanne span i = true := by
      simp only [inSpanne, Bool.and_eq_true, decide_eq_true_eq] at inside ⊢
      omega
    simp only [arbeitskopie, nur, List.getElem?_mapIdx, mem_neu, outer, true_and]
    cases sp.belegt i <;> cases sp.gesperrt i <;> rfl
  rw [wert, same]
  refine (strip_isInfix _).trans ?_
  rw [String.toList_ofList]
  exact stueck_isInfix _ _

end Textspannen

end Einsatzcockpit.Alarmtext

namespace Einsatzcockpit.Alarmtext

open Custody

def Ortsspannen.von (spannen : Ortsspannen) : Ortsfeld → Option Spanne
  | .gemeinde => spannen.gemeinde
  | .ortsteil => spannen.ortsteil
  | .strasse => spannen.strasse

def Ortsspannen.setze (spannen : Ortsspannen) (feld : Ortsfeld) (span : Option Spanne) : Ortsspannen :=
  match feld with
  | .gemeinde => { spannen with gemeinde := span }
  | .ortsteil => { spannen with ortsteil := span }
  | .strasse => { spannen with strasse := span }

namespace AlarmParseResult

def ort (result : AlarmParseResult) : Ortsfeld → Option String
  | .gemeinde => result.gemeinde
  | .ortsteil => result.ortsteil
  | .strasse => result.strasse

def werte (result : AlarmParseResult) : Verbraucher → List String
  | .leitstellennummer => result.leitstellennummer.toList
  | .adresszusatz => result.adresszusatz.toList
  | .lagezusatz => result.lagezusatz.toList
  | .hausnummer => result.hausnummer.toList
  | _ => []

def codes (result : AlarmParseResult) : Verbraucher → List String
  | .stichwort => result.stichwort.toList
  | .weitereCodes => result.weitereCodes
  | .sonderkennzeichen => result.sonderkennzeichen
  | _ => []

def freitext (result : AlarmParseResult) : List String := result.meldebild.toList ++ result.zusatzinfo

end AlarmParseResult

@[simp] theorem ort_setzeOrt (feld feld' : Ortsfeld) (wert : Option String) (result : AlarmParseResult) :
    (setzeOrt feld wert result).ort feld' = if feld' = feld then wert else result.ort feld' := by
  cases feld <;> cases feld' <;> rfl

@[simp] theorem von_setze (feld feld' : Ortsfeld) (span : Option Spanne) (spannen : Ortsspannen) :
    (spannen.setze feld span).von feld' = if feld' = feld then span else spannen.von feld' := by
  cases feld <;> cases feld' <;> rfl

section

variable (feld : Ortsfeld) (wert : Option String) (result : AlarmParseResult)
include feld wert result

@[simp] theorem werte_setzeOrt :
    (setzeOrt feld wert result).werte = result.werte := by
  cases feld <;> rfl

@[simp] theorem codes_setzeOrt :
    (setzeOrt feld wert result).codes = result.codes := by
  cases feld <;> rfl

@[simp] theorem freitext_setzeOrt :
    (setzeOrt feld wert result).freitext = result.freitext := by
  cases feld <;> rfl

end

structure Herkunft (result : AlarmParseResult) (sp : Textspannen) : Prop where
  werte : ∀ feld, ∀ wert ∈ result.werte feld, sp.Aus feld wert
  codes : ∀ feld, ∀ wert ∈ result.codes feld, sp.Wort feld wert
  freitext : ∀ wert ∈ result.freitext, ∃ i, sp.Aus (.abschnitt i) wert

namespace Herkunft

variable {result result' : AlarmParseResult} {sp sp' : Textspannen}

section

variable (herkunft : Herkunft result sp)
include herkunft

theorem mono (text : sp'.text = sp.text)
    (kept : ∀ e ∈ sp.entnahmen, (∀ ort, e.feld ≠ .ort ort) → e ∈ sp'.entnahmen) : Herkunft result sp' where
  werte := fun feld wert member => by
    obtain ⟨e, taken, rfl, cut⟩ := herkunft.werte feld wert member
    refine ⟨e, kept e taken fun ort same => ?_, rfl, text ▸ cut⟩
    rw [same] at member
    cases member
  codes := fun feld wert member => by
    obtain ⟨e, taken, rfl, word⟩ := herkunft.codes feld wert member
    refine ⟨e, kept e taken fun ort same => ?_, rfl, text ▸ word⟩
    rw [same] at member
    cases member
  freitext := fun wert member => by
    obtain ⟨i, e, taken, is, cut⟩ := herkunft.freitext wert member
    refine ⟨i, e, kept e taken fun ort same => ?_, is, text ▸ cut⟩
    rw [is] at same
    cases same

theorem nimm (feld : Verbraucher) (span : Spanne) : Herkunft result (sp.nimm feld span) :=
  herkunft.mono rfl fun _ taken _ => List.mem_append_left _ taken

theorem of_eq (werte : result'.werte = result.werte) (codes : result'.codes = result.codes)
    (freitext : result'.freitext = result.freitext) : Herkunft result' sp :=
  ⟨werte ▸ herkunft.werte, codes ▸ herkunft.codes, freitext ▸ herkunft.freitext⟩

end

end Herkunft

/-- The invariant of the parser: the text, what is taken of it, and the places of
the catalogue, each taken as a whole. -/
structure Gut (text : List Char) (spannen : Ortsspannen) (lauf : Lauf) : Prop where
  text : lauf.sp.text = text
  geordnet : lauf.sp.Geordnet
  herkunft : Herkunft lauf.result lauf.sp
  orte : ∀ feld, lauf.sp.entnahmen.filter (·.feld = .ort feld) =
    (spannen.von feld).toList.map fun span => { feld := .ort feld, neu := stellen span }
  genannt : ∀ feld, (lauf.result.ort feld).isSome → (spannen.von feld).isSome

namespace Gut

variable {text : List Char} {spannen : Ortsspannen} {lauf : Lauf} {result : AlarmParseResult}

section

variable (gut : Gut text spannen lauf)
include gut

theorem of_eq (herkunft : Herkunft result lauf.sp) (ort : result.ort = lauf.result.ort) :
    Gut text spannen { lauf with result } :=
  ⟨gut.text, gut.geordnet, herkunft, gut.orte, fun feld => by rw [ort]; exact gut.genannt feld⟩

theorem hinweis (hinweise : List String) : Gut text spannen (lauf.hinweis hinweise) :=
  gut.of_eq (gut.herkunft.of_eq rfl rfl rfl) rfl

theorem sperreAlle (spans : List Spanne) :
    Gut text spannen { lauf with sp := lauf.sp.sperreAlle spans } where
  text := by rw [Textspannen.text_sperreAlle, gut.text]
  geordnet := gut.geordnet.sperreAlle spans
  herkunft := gut.herkunft.mono (Textspannen.text_sperreAlle spans) fun e taken _ => by
    rwa [Textspannen.entnahmen_sperreAlle]
  orte := fun feld => by rw [Textspannen.entnahmen_sperreAlle, gut.orte]
  genannt := gut.genannt

theorem sperre (span : Spanne) : Gut text spannen { lauf with sp := lauf.sp.sperre span } :=
  gut.sperreAlle [span]

theorem nimm {feld : Verbraucher} (outside : ∀ ort, feld ≠ .ort ort) {span : Spanne}
    (herkunft : Herkunft result (lauf.sp.nimm feld span)) (ort : result.ort = lauf.result.ort) :
    Gut text spannen { result, sp := lauf.sp.nimm feld span } where
  text := gut.text
  geordnet := gut.geordnet.nimm
  herkunft := herkunft
  orte := fun ort => by
    rw [← gut.orte ort, Textspannen.nimm, List.filter_append]
    simp [outside ort]
  genannt := fun feld => by rw [ort]; exact gut.genannt feld

end

end Gut

end Einsatzcockpit.Alarmtext
