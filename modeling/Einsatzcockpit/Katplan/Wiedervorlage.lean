import Einsatzcockpit.Lib.Keyed
import Einsatzcockpit.Lib.Raise
import Einsatzcockpit.Lib.Run
import Mathlib.Algebra.Order.Group.Nat

/-! The review dates of the plans and the reminders of them, `katplan_freigabe_service.py`. -/

namespace Einsatzcockpit.Katplan

open Raising Relational

section Kalender

def schaltjahr (jahr : Nat) : Bool := jahr % 4 = 0 ∧ (jahr % 100 ≠ 0 ∨ jahr % 400 = 0)

/-- `monthrange(jahr, monat)[1]` -/
def monatslaenge (jahr monat : Nat) : Nat :=
  if monat = 2 then if schaltjahr jahr then 29 else 28
  else if monat = 4 ∨ monat = 6 ∨ monat = 9 ∨ monat = 11 then 30 else 31

structure Datum where
  jahr : Nat
  monat : Nat
  tag : Nat
  imJahr : 1 ≤ monat ∧ monat ≤ 12
  imMonat : 1 ≤ tag ∧ tag ≤ monatslaenge jahr monat
  deriving DecidableEq

def tageVor : Nat → Nat
  | 0 => 0
  | monat + 1 => tageVor monat + monatslaenge (monat / 12) (monat % 12 + 1)

/-- The number of a day: what dates are compared by, and what `timedelta` moves. -/
def Datum.ordinal (d : Datum) : Int := tageVor (d.jahr * 12 + d.monat - 1) + d.tag

theorem monatslaenge_ge (jahr monat : Nat) : 28 ≤ monatslaenge jahr monat := by
  unfold monatslaenge
  split_ifs <;> decide

def naechstePruefung (von : Datum) (monate : Nat) : Datum where
  jahr := (von.jahr * 12 + von.monat - 1 + monate) / 12
  monat := (von.jahr * 12 + von.monat - 1 + monate) % 12 + 1
  tag := min von.tag (monatslaenge ((von.jahr * 12 + von.monat - 1 + monate) / 12) ((von.jahr * 12 + von.monat - 1 + monate) % 12 + 1))
  imJahr := by omega
  imMonat := ⟨le_min von.imMonat.1 (le_trans (by decide) (monatslaenge_ge _ _)), min_le_right _ _⟩

theorem tageVor_add (monat : Nat) {monate : Nat} (some_ : 1 ≤ monate) :
    tageVor monat + monatslaenge (monat / 12) (monat % 12 + 1) ≤ tageVor (monat + monate) := by
  induction monate, some_ using Nat.le_induction with
  | base => exact le_rfl
  | succ monate _ ih => exact ih.trans (Nat.le_add_right _ _)

theorem naechstePruefung_ordinal (von : Datum) {monate : Nat} (some_ : 1 ≤ monate) :
    von.ordinal + 28 ≤ (naechstePruefung von monate).ordinal := by
  generalize index : von.jahr * 12 + von.monat - 1 = monat
  have within := von.imMonat.2
  have isJahr : von.jahr = monat / 12 := by have := von.imJahr; omega
  have isMonat : von.monat = monat % 12 + 1 := by have := von.imJahr; omega
  rw [isJahr, isMonat] at within
  have later := tageVor_add monat some_
  have long := monatslaenge_ge (monat / 12) (monat % 12 + 1)
  have longThen := monatslaenge_ge ((monat + monate) / 12) ((monat + monate) % 12 + 1)
  have ordinal : von.ordinal = tageVor monat + von.tag := by rw [Datum.ordinal, index]
  have next : (naechstePruefung von monate).ordinal = tageVor (monat + monate) +
      min von.tag (monatslaenge ((monat + monate) / 12) ((monat + monate) % 12 + 1)) := by
    have same : (monat + monate) / 12 * 12 + ((monat + monate) % 12 + 1) - 1 = monat + monate := by omega
    rw [Datum.ordinal, naechstePruefung]
    dsimp only
    rw [index, same]
  rw [ordinal, next]
  omega

end Kalender

section Plan

inductive Status where
  | entwurf
  | inPruefung
  | inUeberarbeitung
  | freigegeben
  | archiviert
  deriving DecidableEq

structure KatplanPlan where
  id : Nat
  orgId : Option Nat
  titel : String
  planart : String := "katastrophenplan"
  status : Status := .entwurf
  aktuelleVersionId : Option Nat := none
  pruefVerantwortlichUserId : Option Nat := none
  pruefintervallMonate : Option Nat := none
  zuletztGeprueftAm : Option Datum := none
  zuletztGeprueftVonId : Option Nat := none
  wiedervorlageAm : Option Datum := none
  wiedervorlageErinnertAm : Option Datum := none
  wiedervorlageVorabErinnertAm : Option Datum := none
  wiedervorlageEskaliertAm : Option Datum := none
  version : Nat := 0
  deriving DecidableEq

/-- The interval of `PLANARTEN`. -/
def planartIntervall (planart : String) : Option Nat :=
  if planart = "alarm_einsatzplan" then some 12
  else if planart = "massnahmenplan" then some 24
  else if planart = "katastrophenplan" then some 24
  else none

def pruefintervall (plan : KatplanPlan) : Nat :=
  match plan.pruefintervallMonate with
  | some (monate + 1) => monate + 1
  | _ => (planartIntervall plan.planart).getD 24

/-- `_setze_geprueft` -/
def setzeGeprueft (plan : KatplanPlan) (userId : Nat) (heute : Datum) : KatplanPlan :=
  { plan with
    zuletztGeprueftAm := some heute
    zuletztGeprueftVonId := some userId
    wiedervorlageAm := some (naechstePruefung heute (pruefintervall plan))
    wiedervorlageErinnertAm := none
    wiedervorlageVorabErinnertAm := none
    wiedervorlageEskaliertAm := none }

def ueberpruefungBestaetigen (plan : KatplanPlan) (userId : Nat) (kommentar : Option String) (heute : Datum) :
    Except String KatplanPlan := do
  require (plan.aktuelleVersionId ≠ none) "Nur freigegebene Pläne können als überprüft bestätigt werden."
  require (plan.status = .freigegeben) "Der Plan hat unveröffentlichte Änderungen – bitte zuerst freigeben."
  require (∀ k ∈ kommentar, k.length ≤ 2000) "Der Kommentar darf höchstens 2000 Zeichen enthalten."
  pure { setzeGeprueft plan userId heute with version := plan.version + 1 }

/-- What a release finds: the number of elements, the number of the current version if its
content is the same, and the id of the new one. -/
structure Fassung where
  anzahlElemente : Nat
  unveraendertSeit : Option Nat := none
  versionId : Nat

def freigeben (plan : KatplanPlan) (userId : Nat) (aenderungsnotiz : Option String) (fassung : Fassung) (heute : Datum) :
    Except String KatplanPlan := do
  require (∀ notiz ∈ aenderungsnotiz, notiz.length ≤ 2000) "Die Änderungsnotiz darf höchstens 2000 Zeichen enthalten."
  require (plan.status ≠ .archiviert) "Archivierte Pläne können nicht freigegeben werden."
  require (fassung.anzahlElemente ≠ 0) "Der Plan muss mindestens ein Element enthalten."
  require (plan.aktuelleVersionId = none ∨ fassung.unveraendertSeit = none)
    s!"Keine Änderungen seit Version {fassung.unveraendertSeit.getD 0}"
  require (plan.status = .entwurf ∨ plan.status = .inPruefung ∨ plan.status = .inUeberarbeitung)
    "Dieser Plan kann in seinem aktuellen Status nicht freigegeben werden."
  pure { setzeGeprueft { plan with aktuelleVersionId := some fassung.versionId } userId heute with
    status := .freigegeben
    version := plan.version + 1 }

end Plan

section Erinnerung

inductive Stufe where
  | vorab
  | faellig
  | eskalation
  deriving DecidableEq

def Stufe.rang : Stufe → Nat
  | .vorab => 0
  | .faellig => 1
  | .eskalation => 2

structure Treffer where
  orgId : Option Nat
  planId : Nat
  titel : String
  wiedervorlageAm : Datum
  art : Stufe
  verantwortlichUserId : Option Nat
  deriving DecidableEq

def erinnere (heute : Datum) (plan : KatplanPlan) : KatplanPlan × Option Treffer :=
  match plan.wiedervorlageAm with
  | none => (plan, none)
  | some termin =>
    let treffer (art : Stufe) : Treffer :=
      { orgId := plan.orgId, planId := plan.id, titel := plan.titel, wiedervorlageAm := termin, art,
        verantwortlichUserId := plan.pruefVerantwortlichUserId }
    if plan.status = .archiviert ∨ plan.wiedervorlageEskaliertAm ≠ none then (plan, none)
    else if termin.ordinal + 30 ≤ heute.ordinal then
      ({ plan with
        wiedervorlageEskaliertAm := some heute
        wiedervorlageErinnertAm := plan.wiedervorlageErinnertAm.or (some heute) }, some (treffer .eskalation))
    else if termin.ordinal ≤ heute.ordinal ∧ plan.wiedervorlageErinnertAm = none then
      ({ plan with wiedervorlageErinnertAm := some heute }, some (treffer .faellig))
    else if termin.ordinal - 14 ≤ heute.ordinal ∧ plan.wiedervorlageVorabErinnertAm = none ∧ plan.wiedervorlageErinnertAm = none then
      ({ plan with wiedervorlageVorabErinnertAm := some heute }, some (treffer .vorab))
    else (plan, none)

theorem erinnere_id (heute : Datum) (plan : KatplanPlan) : (erinnere heute plan).1.id = plan.id := by
  unfold erinnere
  split
  · rfl
  · dsimp only
    split_ifs <;> rfl

/-- `pruefe_wiedervorlagen`; each organisation has its day. -/
def pruefeWiedervorlagen (heuteOrg : Option Nat → Datum) (plaene : Keyed KatplanPlan.id) : Keyed KatplanPlan.id × List Treffer :=
  (plaene.map (fun plan => (erinnere (heuteOrg plan.orgId) plan).1) fun plan => erinnere_id _ plan,
    plaene.rows.filterMap fun plan => (erinnere (heuteOrg plan.orgId) plan).2)

end Erinnerung

section Verlauf

theorem freigeben_eq_ok {plan neu : KatplanPlan} {userId : Nat} {notiz : Option String} {fassung : Fassung} {heute : Datum}
    (ok : freigeben plan userId notiz fassung heute = .ok neu) : neu.id = plan.id ∧ neu.orgId = plan.orgId ∧
      neu.wiedervorlageAm = some (naechstePruefung heute (pruefintervall plan)) ∧ neu.wiedervorlageEskaliertAm = none := by
  unfold freigeben at ok
  simp only [bind_eq_ok, require_eq_ok, pure_eq_ok] at ok
  obtain ⟨-, -, -, -, -, -, -, -, -, -, rfl⟩ := ok
  exact ⟨rfl, rfl, rfl, rfl⟩

theorem ueberpruefungBestaetigen_eq_ok {plan neu : KatplanPlan} {userId : Nat} {kommentar : Option String} {heute : Datum}
    (ok : ueberpruefungBestaetigen plan userId kommentar heute = .ok neu) : neu.id = plan.id ∧ neu.orgId = plan.orgId ∧
      neu.wiedervorlageAm = some (naechstePruefung heute (pruefintervall plan)) ∧ neu.wiedervorlageEskaliertAm = none := by
  unfold ueberpruefungBestaetigen at ok
  simp only [bind_eq_ok, require_eq_ok, pure_eq_ok] at ok
  obtain ⟨-, -, -, -, -, -, rfl⟩ := ok
  exact ⟨rfl, rfl, rfl, rfl⟩

theorem pruefintervall_pos (plan : KatplanPlan) : 1 ≤ pruefintervall plan := by
  unfold pruefintervall planartIntervall
  split
  · exact Nat.succ_le_succ (Nat.zero_le _)
  · split_ifs <;> decide

inductive Aktion where
  | pruefe
  | freigeben (planId userId : Nat) (aenderungsnotiz : Option String) (fassung : Fassung)
  | bestaetigen (planId userId : Nat) (kommentar : Option String)

/-- An action, and the day that it is taken on in each organisation. -/
structure Schritt where
  heuteOrg : Option Nat → Datum
  aktion : Aktion

/-- The plans, the day, how many review dates each plan has been given, and the
reminders of all runs, each with the number of the review date it is for. -/
structure Welt where
  plaene : Keyed KatplanPlan.id
  heuteOrg : Option Nat → Datum
  fristen : Nat → Nat := fun _ => 0
  erinnerungen : List (Nat × Treffer) := []

def Aktion.aendere (heuteOrg : Option Nat → Datum) (plan : KatplanPlan) : Aktion → Except String KatplanPlan
  | .pruefe => .ok plan
  | .freigeben _ userId notiz fassung => Katplan.freigeben plan userId notiz fassung (heuteOrg plan.orgId)
  | .bestaetigen _ userId kommentar => ueberpruefungBestaetigen plan userId kommentar (heuteOrg plan.orgId)

def Aktion.nachher (heuteOrg : Option Nat → Datum) (aktion : Aktion) (plan : KatplanPlan) : KatplanPlan :=
  match aktion.aendere heuteOrg plan with
  | .ok neu => neu
  | .error _ => plan

theorem nachher_id (heuteOrg : Option Nat → Datum) (aktion : Aktion) (plan : KatplanPlan) :
    (aktion.nachher heuteOrg plan).id = plan.id := by
  unfold Aktion.nachher
  split
  · next neu ok =>
    cases aktion with
    | pruefe =>
      cases ok
      rfl
    | freigeben => exact (freigeben_eq_ok ok).1
    | bestaetigen => exact (ueberpruefungBestaetigen_eq_ok ok).1
  · rfl

def Welt.neueFrist (welt : Welt) (aktion : Aktion) (planId : Nat) : Welt :=
  match welt.plaene.get? planId with
  | none => welt
  | some plan =>
    match aktion.aendere welt.heuteOrg plan with
    | .error _ => welt
    | .ok _ => { welt with
        plaene := welt.plaene.modify planId (aktion.nachher welt.heuteOrg) (nachher_id welt.heuteOrg aktion)
        fristen := fun id => if id = planId then welt.fristen id + 1 else welt.fristen id }

def Welt.step (welt : Welt) (schritt : Schritt) : Welt :=
  let welt := { welt with heuteOrg := schritt.heuteOrg }
  match schritt.aktion with
  | .pruefe =>
    let (plaene, treffer) := pruefeWiedervorlagen welt.heuteOrg welt.plaene
    { welt with plaene, erinnerungen := welt.erinnerungen ++ treffer.map fun t => (welt.fristen t.planId, t) }
  | .freigeben planId userId notiz fassung => welt.neueFrist (.freigeben planId userId notiz fassung) planId
  | .bestaetigen planId userId kommentar => welt.neueFrist (.bestaetigen planId userId kommentar) planId

def Welt.Vorwaerts (welt : Welt) (schritt : Schritt) : Prop :=
  ∀ org, (welt.heuteOrg org).ordinal ≤ (schritt.heuteOrg org).ordinal

end Verlauf

section Stufen

variable {plan : KatplanPlan} {heute : Datum} {treffer : Treffer}

def Vermerkt (plan : KatplanPlan) : Stufe → Prop
  | .vorab => plan.wiedervorlageVorabErinnertAm ≠ none
  | .faellig => plan.wiedervorlageErinnertAm ≠ none
  | .eskalation => plan.wiedervorlageEskaliertAm ≠ none

theorem erinnere_treffer (found : (erinnere heute plan).2 = some treffer) :
    (treffer.planId = plan.id ∧ treffer.orgId = plan.orgId ∧ plan.wiedervorlageAm = some treffer.wiedervorlageAm) ∧
      treffer.wiedervorlageAm.ordinal - 14 ≤ heute.ordinal ∧ (∀ art, Vermerkt plan art → art.rang < treffer.art.rang) ∧
      Vermerkt (erinnere heute plan).1 treffer.art := by
  unfold erinnere at found ⊢
  split at found
  · cases found
  · next termin isTermin =>
    dsimp only at found ⊢
    split at found
    · cases found
    · next open_ =>
      rw [not_or, not_not] at open_
      rw [if_neg (by simp [open_])]
      split at found
      · next late =>
        cases found
        refine ⟨⟨rfl, rfl, isTermin⟩, by dsimp only; omega, fun art noted => ?_, ?_⟩
        · cases art
          · exact Nat.zero_lt_succ _
          · exact Nat.lt_succ_self _
          · exact absurd open_.2 noted
        · rw [if_pos late]
          exact Option.some_ne_none _
      · next late =>
        rw [if_neg late]
        split at found
        · next due =>
          cases found
          refine ⟨⟨rfl, rfl, isTermin⟩, by dsimp only; omega, fun art noted => ?_, ?_⟩
          · cases art
            · exact Nat.zero_lt_succ _
            · exact absurd due.2 noted
            · exact absurd open_.2 noted
          · rw [if_pos due]
            exact Option.some_ne_none _
        · next due =>
          rw [if_neg due]
          split at found
          · next soon =>
            cases found
            refine ⟨⟨rfl, rfl, isTermin⟩, soon.1, fun art noted => ?_, ?_⟩
            · cases art
              · exact absurd soon.2.1 noted
              · exact absurd soon.2.2 noted
              · exact absurd open_.2 noted
            · rw [if_pos soon]
              exact Option.some_ne_none _
          · cases found

theorem erinnere_behaelt (heute : Datum) (plan : KatplanPlan) : (erinnere heute plan).1.orgId = plan.orgId ∧
    (erinnere heute plan).1.wiedervorlageAm = plan.wiedervorlageAm ∧ (erinnere heute plan).1.status = plan.status ∧
    ∀ art, Vermerkt plan art → Vermerkt (erinnere heute plan).1 art := by
  unfold erinnere
  split
  · exact ⟨rfl, rfl, rfl, fun _ noted => noted⟩
  · dsimp only
    split_ifs with closed late due soon
    · exact ⟨rfl, rfl, rfl, fun _ noted => noted⟩
    · refine ⟨rfl, rfl, rfl, fun art noted => ?_⟩
      cases art
      · exact noted
      · obtain ⟨tag, isTag⟩ := Option.ne_none_iff_exists'.mp noted
        rw [Vermerkt, isTag]
        exact Option.some_ne_none _
      · exact Option.some_ne_none _
    · refine ⟨rfl, rfl, rfl, fun art noted => ?_⟩
      cases art
      · exact noted
      · exact Option.some_ne_none _
      · exact noted
    · refine ⟨rfl, rfl, rfl, fun art noted => ?_⟩
      cases art
      · exact Option.some_ne_none _
      · exact noted
      · exact noted
    · exact ⟨rfl, rfl, rfl, fun _ noted => noted⟩

theorem erinnere_eskaliert (now : Vermerkt (erinnere heute plan).1 .eskalation) :
    Vermerkt plan .eskalation ∨ ∃ t, (erinnere heute plan).2 = some t ∧ t.art = .eskalation := by
  unfold erinnere at now ⊢
  split at now
  · exact Or.inl now
  · dsimp only at now ⊢
    split_ifs at now ⊢
    · exact Or.inl now
    · exact Or.inr ⟨_, rfl, rfl⟩
    · exact Or.inl now
    · exact Or.inl now
    · exact Or.inl now

end Stufen

section Ordnung

/-- The reminders of each review date are in order, and what the plans remember of the
current one is what has been sent for it. -/
structure Geordnet (anfang : Keyed KatplanPlan.id) (welt : Welt) : Prop where
  stufen : ∀ planId n, (welt.erinnerungen.filter fun e => e.1 = n ∧ e.2.planId = planId).Pairwise fun e e' => e.2.art.rang < e'.2.art.rang
  frueher : ∀ e ∈ welt.erinnerungen, e.1 ≤ welt.fristen e.2.planId
  vermerkt : ∀ plan ∈ welt.plaene.rows, ∀ e ∈ welt.erinnerungen, e.2.planId = plan.id → e.1 = welt.fristen plan.id →
    Vermerkt plan e.2.art ∧ plan.wiedervorlageAm = some e.2.wiedervorlageAm
  eskaliert : ∀ plan ∈ welt.plaene.rows, Vermerkt plan .eskalation →
    (welt.fristen plan.id = 0 ∧ ∃ alt ∈ anfang.rows, alt.id = plan.id ∧ Vermerkt alt .eskalation) ∨
      ∃ e ∈ welt.erinnerungen, e.1 = welt.fristen plan.id ∧ e.2.planId = plan.id ∧ e.2.art = .eskalation

variable {anfang : Keyed KatplanPlan.id} {welt : Welt}

variable {heuteOrg : Option Nat → Datum} {aktion : Aktion}

theorem mem_treffer {plaene : Keyed KatplanPlan.id} {t : Treffer} :
    t ∈ (pruefeWiedervorlagen heuteOrg plaene).2 ↔ ∃ plan ∈ plaene.rows, (erinnere (heuteOrg plan.orgId) plan).2 = some t :=
  List.mem_filterMap

theorem treffer_einzeln (heuteOrg : Option Nat → Datum) (plaene : Keyed KatplanPlan.id) :
    (pruefeWiedervorlagen heuteOrg plaene).2.Pairwise fun t t' => t.planId ≠ t'.planId := by
  have keys := plaene.nodup
  rw [List.Nodup, List.pairwise_map] at keys
  refine List.pairwise_filterMap.mpr (keys.imp fun {a b} differ t isT t' isT' => ?_)
  rw [(erinnere_treffer isT).1.1, (erinnere_treffer isT').1.1]
  exact differ

theorem mem_pruefe {plaene : Keyed KatplanPlan.id} {plan' : KatplanPlan}
    (member : plan' ∈ (pruefeWiedervorlagen heuteOrg plaene).1.rows) :
    ∃ plan ∈ plaene.rows, (erinnere (heuteOrg plan.orgId) plan).1 = plan' ∧ plan'.id = plan.id := by
  obtain ⟨plan, isPlan, rfl⟩ := List.mem_map.mp member
  exact ⟨plan, isPlan, rfl, erinnere_id _ plan⟩

theorem mem_frist {erinnerungen : List (Nat × Treffer)} {e : Nat × Treffer} {planId n : Nat} :
    e ∈ (erinnerungen.filter fun e => e.1 = n ∧ e.2.planId = planId) ↔ e ∈ erinnerungen ∧ e.1 = n ∧ e.2.planId = planId := by
  rw [List.mem_filter, decide_eq_true_eq]

theorem mem_erinnerungen_pruefe {e : Nat × Treffer} :
    e ∈ (welt.step { heuteOrg, aktion := .pruefe }).erinnerungen ↔ e ∈ welt.erinnerungen ∨
      e.1 = welt.fristen e.2.planId ∧ e.2 ∈ (pruefeWiedervorlagen heuteOrg welt.plaene).2 := by
  have unfolded : (welt.step { heuteOrg, aktion := .pruefe }).erinnerungen = welt.erinnerungen ++
      (pruefeWiedervorlagen heuteOrg welt.plaene).2.map fun t => (welt.fristen t.planId, t) := rfl
  rw [unfolded, List.mem_append, List.mem_map]
  refine or_congr_right ⟨?_, fun ⟨number, sent⟩ => ⟨e.2, sent, Prod.ext number.symm rfl⟩⟩
  rintro ⟨t, sent, rfl⟩
  exact ⟨rfl, sent⟩

theorem plan_eq {t : Treffer} (sent : t ∈ (pruefeWiedervorlagen heuteOrg welt.plaene).2)
    {plan : KatplanPlan} (isPlan : plan ∈ welt.plaene.rows) (same : t.planId = plan.id) :
    (erinnere (heuteOrg plan.orgId) plan).2 = some t := by
  obtain ⟨other, isOther, found⟩ := mem_treffer.mp sent
  have read := Keyed.get?_of_mem isOther
  rw [← (erinnere_treffer found).1.1, same, Keyed.get?_of_mem isPlan] at read
  rw [Option.some.inj read]
  exact found

theorem Geordnet.pruefe (geordnet : Geordnet anfang welt) (heuteOrg : Option Nat → Datum) :
    Geordnet anfang (welt.step { heuteOrg, aktion := .pruefe }) := by
  refine ⟨fun planId n => ?_, fun e member => ?_, fun plan' member e sent same current => ?_, fun plan' member noted => ?_⟩
  · have unfolded : (welt.step { heuteOrg, aktion := .pruefe }).erinnerungen = welt.erinnerungen ++
        (pruefeWiedervorlagen heuteOrg welt.plaene).2.map fun t => (welt.fristen t.planId, t) := rfl
    rw [unfolded, List.filter_append, List.pairwise_append]
    refine ⟨geordnet.stufen planId n, ?_, fun e before e' after => ?_⟩
    · have apart := (treffer_einzeln heuteOrg welt.plaene).map (fun t => (welt.fristen t.planId, t))
        (S := fun e e' : Nat × Treffer => e.2.planId ≠ e'.2.planId) fun _ _ differ => differ
      refine (apart.filter _).imp_of_mem fun {e e'} isE isE' differ => absurd ?_ differ
      rw [(mem_frist.mp isE).2.2, (mem_frist.mp isE').2.2]
    · obtain ⟨isE, number, ofPlan⟩ := mem_frist.mp before
      obtain ⟨isE', number', ofPlan'⟩ := mem_frist.mp after
      obtain ⟨t, sent, rfl⟩ := List.mem_map.mp isE'
      obtain ⟨plan, isPlan, found⟩ := mem_treffer.mp sent
      have spec := erinnere_treffer found
      have same : e.2.planId = plan.id := ofPlan.trans (ofPlan'.symm.trans spec.1.1)
      refine spec.2.2.1 _ (geordnet.vermerkt plan isPlan e isE same ?_).1
      rw [number, ← number', ← spec.1.1]
  · rcases mem_erinnerungen_pruefe.mp member with before | ⟨number, -⟩
    · exact geordnet.frueher e before
    · exact number.le
  · obtain ⟨plan, isPlan, rfl, id⟩ := mem_pruefe member
    rw [id] at same current
    rcases mem_erinnerungen_pruefe.mp sent with before | ⟨-, now⟩
    · have noted := geordnet.vermerkt plan isPlan e before same current
      exact ⟨(erinnere_behaelt _ plan).2.2.2 _ noted.1, (erinnere_behaelt _ plan).2.1.trans noted.2⟩
    · have spec := erinnere_treffer (plan_eq now isPlan same)
      exact ⟨spec.2.2.2, (erinnere_behaelt _ plan).2.1.trans spec.1.2.2⟩
  · obtain ⟨plan, isPlan, rfl, id⟩ := mem_pruefe member
    rcases erinnere_eskaliert noted with before | ⟨t, found, escalated⟩
    · rcases geordnet.eskaliert plan isPlan before with ⟨first, alt, isAlt, sameId, was⟩ | ⟨e, isE, number, ofPlan, stage⟩
      · exact Or.inl ⟨id.symm ▸ first, alt, isAlt, sameId.trans id.symm, was⟩
      · exact Or.inr ⟨e, mem_erinnerungen_pruefe.mpr (Or.inl isE), number.trans (by rw [id]; rfl), ofPlan.trans id.symm, stage⟩
    · have spec := erinnere_treffer found
      refine Or.inr ⟨(welt.fristen plan.id, t), mem_erinnerungen_pruefe.mpr (Or.inr ⟨by rw [spec.1.1], ?_⟩), by rw [id]; rfl,
        spec.1.1.trans id.symm, escalated⟩
      exact mem_treffer.mpr ⟨plan, isPlan, found⟩

theorem aendere_eq_ok {plan neu : KatplanPlan} (changes : aktion ≠ .pruefe)
    (ok : aktion.aendere heuteOrg plan = .ok neu) : neu.orgId = plan.orgId ∧
      neu.wiedervorlageAm = some (naechstePruefung (heuteOrg plan.orgId) (pruefintervall plan)) ∧ ¬ Vermerkt neu .eskalation := by
  cases aktion with
  | pruefe => exact absurd rfl changes
  | freigeben => exact (freigeben_eq_ok ok).2.imp_right (And.imp_right not_not.mpr)
  | bestaetigen => exact (ueberpruefungBestaetigen_eq_ok ok).2.imp_right (And.imp_right not_not.mpr)

theorem neueFrist_cases (changes : aktion ≠ .pruefe) (planId : Nat) : welt.neueFrist aktion planId = welt ∨
    ((welt.neueFrist aktion planId).erinnerungen = welt.erinnerungen ∧ (welt.neueFrist aktion planId).heuteOrg = welt.heuteOrg ∧
      (∀ id, (welt.neueFrist aktion planId).fristen id = if id = planId then welt.fristen id + 1 else welt.fristen id) ∧
      ∀ neu ∈ (welt.neueFrist aktion planId).plaene.rows, neu.id ≠ planId ∧ neu ∈ welt.plaene.rows ∨
        neu.id = planId ∧ ¬ Vermerkt neu .eskalation ∧ ∃ plan ∈ welt.plaene.rows, plan.id = planId ∧ neu.orgId = plan.orgId ∧
          neu.wiedervorlageAm = some (naechstePruefung (welt.heuteOrg plan.orgId) (pruefintervall plan))) := by
  unfold Welt.neueFrist
  split
  · exact Or.inl rfl
  · next plan found =>
    split
    · exact Or.inl rfl
    · next neu ok =>
      refine Or.inr ⟨rfl, rfl, fun _ => rfl, fun row member => ?_⟩
      have spec := aendere_eq_ok changes ok
      have after : aktion.nachher welt.heuteOrg plan = neu := by rw [Aktion.nachher, ok]
      have read : (welt.plaene.modify planId (aktion.nachher welt.heuteOrg) (nachher_id welt.heuteOrg aktion)).get? row.id = some row :=
        Keyed.get?_of_mem member
      rcases Keyed.get?_modify_cases read with ⟨other, same⟩ | ⟨same, old, isOld, rfl⟩
      · exact Or.inl ⟨other, Keyed.mem_of_get? same⟩
      · cases found.symm.trans isOld
        rw [after] at same ⊢
        exact Or.inr ⟨same, spec.2.2, plan, Keyed.mem_of_get? found, Keyed.key_of_get? found, spec.1, spec.2.1⟩

theorem Geordnet.neueFrist (geordnet : Geordnet anfang welt) (changes : aktion ≠ .pruefe) (planId : Nat) :
    Geordnet anfang (welt.neueFrist aktion planId) := by
  rcases @neueFrist_cases welt aktion changes planId with same | ⟨sent, -, fristen, rows⟩
  · rwa [same]
  · refine ⟨?_, fun e member => ?_, fun plan member e isE same current => ?_, fun plan member noted => ?_⟩
    · rw [sent]
      exact geordnet.stufen
    · rw [sent] at member
      rw [fristen]
      have before := geordnet.frueher e member
      split
      · exact Nat.le_succ_of_le before
      · exact before
    · rw [sent] at isE
      rw [fristen] at current
      rcases rows plan member with ⟨other, old⟩ | ⟨isPlan, -⟩
      · rw [if_neg other] at current
        exact geordnet.vermerkt plan old e isE same current
      · have before := geordnet.frueher e isE
        rw [if_pos isPlan, ← same] at current
        omega
    · rcases rows plan member with ⟨other, old⟩ | ⟨-, fresh, -⟩
      · rw [sent, fristen, if_neg other]
        exact geordnet.eskaliert plan old noted
      · exact absurd noted fresh

theorem freigeben_ne (planId userId : Nat) (notiz : Option String) (fassung : Fassung) :
    Aktion.freigeben planId userId notiz fassung ≠ .pruefe := nofun

theorem bestaetigen_ne (planId userId : Nat) (kommentar : Option String) : Aktion.bestaetigen planId userId kommentar ≠ .pruefe :=
  nofun

theorem Geordnet.step (geordnet : Geordnet anfang welt) (schritt : Schritt) : Geordnet anfang (welt.step schritt) := by
  have today : Geordnet anfang { welt with heuteOrg := schritt.heuteOrg } :=
    ⟨geordnet.stufen, geordnet.frueher, geordnet.vermerkt, geordnet.eskaliert⟩
  obtain ⟨heuteOrg, aktion⟩ := schritt
  cases aktion with
  | pruefe => exact geordnet.pruefe heuteOrg
  | freigeben planId userId notiz fassung => exact today.neueFrist (freigeben_ne planId userId notiz fassung) planId
  | bestaetigen planId userId kommentar => exact today.neueFrist (bestaetigen_ne planId userId kommentar) planId

end Ordnung

section Daten

/-- While no day goes back, no date is given to a plan again once a reminder of it has
been sent. -/
structure Datiert (welt : Welt) : Prop where
  zeitig : ∀ e ∈ welt.erinnerungen, e.2.wiedervorlageAm.ordinal - 14 ≤ (welt.heuteOrg e.2.orgId).ordinal
  org : ∀ plan ∈ welt.plaene.rows, ∀ e ∈ welt.erinnerungen, e.2.planId = plan.id → e.2.orgId = plan.orgId
  aelter : ∀ plan ∈ welt.plaene.rows, ∀ e ∈ welt.erinnerungen, e.2.planId = plan.id → e.1 < welt.fristen plan.id →
    ∀ termin, plan.wiedervorlageAm = some termin → e.2.wiedervorlageAm.ordinal < termin.ordinal
  eindeutig : ∀ e ∈ welt.erinnerungen, ∀ e' ∈ welt.erinnerungen, e.2.planId = e'.2.planId →
    e.2.wiedervorlageAm = e'.2.wiedervorlageAm → e.1 = e'.1

variable {anfang : Keyed KatplanPlan.id} {welt : Welt}

theorem Datiert.pruefe (datiert : Datiert welt) (geordnet : Geordnet anfang welt) {heuteOrg : Option Nat → Datum}
    (vorwaerts : welt.Vorwaerts { heuteOrg, aktion := .pruefe }) : Datiert (welt.step { heuteOrg, aktion := .pruefe }) := by
  -- a reminder of the run has another date than those of earlier review dates of its plan
  have neu : ∀ e ∈ welt.erinnerungen, ∀ t ∈ (pruefeWiedervorlagen heuteOrg welt.plaene).2, e.2.planId = t.planId →
      e.2.wiedervorlageAm = t.wiedervorlageAm → e.1 = welt.fristen t.planId := by
    intro e before t sent same date
    obtain ⟨plan, isPlan, found⟩ := mem_treffer.mp sent
    have spec := (erinnere_treffer found).1
    have number := geordnet.frueher e before
    rw [same] at number
    refine number.antisymm (not_lt.mp fun earlier => ?_)
    rw [spec.1] at same earlier
    exact absurd (datiert.aelter plan isPlan e before same earlier _ spec.2.2) (by rw [date]; exact lt_irrefl _)
  refine ⟨fun e member => ?_, fun plan' member e isE same => ?_, fun plan' member e isE same earlier termin isTermin => ?_,
    fun e isE e' isE' same date => ?_⟩
  · rcases mem_erinnerungen_pruefe.mp member with before | ⟨-, sent⟩
    · exact (datiert.zeitig e before).trans (vorwaerts _)
    · obtain ⟨plan, -, found⟩ := mem_treffer.mp sent
      have spec := erinnere_treffer found
      rw [spec.1.2.1]
      exact spec.2.1
  · obtain ⟨plan, isPlan, rfl, id⟩ := mem_pruefe member
    rw [id] at same
    rw [(erinnere_behaelt _ plan).1]
    rcases mem_erinnerungen_pruefe.mp isE with before | ⟨-, sent⟩
    · exact datiert.org plan isPlan e before same
    · exact (erinnere_treffer (plan_eq sent isPlan same)).1.2.1
  · obtain ⟨plan, isPlan, rfl, id⟩ := mem_pruefe member
    rw [id] at same earlier
    rw [(erinnere_behaelt _ plan).2.1] at isTermin
    rcases mem_erinnerungen_pruefe.mp isE with before | ⟨number, -⟩
    · exact datiert.aelter plan isPlan e before same earlier termin isTermin
    · rw [number, same] at earlier
      exact absurd earlier (lt_irrefl _)
  · rcases mem_erinnerungen_pruefe.mp isE with before | ⟨number, sent⟩
    · rcases mem_erinnerungen_pruefe.mp isE' with before' | ⟨number', sent'⟩
      · exact datiert.eindeutig e before e' before' same date
      · exact (neu e before e'.2 sent' same date).trans number'.symm
    · rcases mem_erinnerungen_pruefe.mp isE' with before' | ⟨number', -⟩
      · exact number.trans (neu e' before' e.2 sent same.symm date.symm).symm
      · rw [number, number', same]

theorem Datiert.neueFrist (datiert : Datiert welt) {aktion : Aktion} (changes : aktion ≠ .pruefe) (planId : Nat) :
    Datiert (welt.neueFrist aktion planId) := by
  rcases @neueFrist_cases welt aktion changes planId with same | ⟨sent, today, fristen, rows⟩
  · rwa [same]
  · refine ⟨?_, fun plan member e isE same => ?_, fun plan member e isE same earlier termin isTermin => ?_, ?_⟩
    · rw [sent, today]
      exact datiert.zeitig
    · rw [sent] at isE
      rcases rows plan member with ⟨-, old⟩ | ⟨isPlan, -, alt, isAlt, altId, org, -⟩
      · exact datiert.org plan old e isE same
      · exact (datiert.org alt isAlt e isE (same.trans (isPlan.trans altId.symm))).trans org.symm
    · rw [sent] at isE
      rw [fristen] at earlier
      rcases rows plan member with ⟨other, old⟩ | ⟨isPlan, -, alt, isAlt, altId, -, date⟩
      · rw [if_neg other] at earlier
        exact datiert.aelter plan old e isE same earlier termin isTermin
      · cases date.symm.trans isTermin
        have soon := datiert.zeitig e isE
        rw [datiert.org alt isAlt e isE (same.trans (isPlan.trans altId.symm))] at soon
        have ahead := naechstePruefung_ordinal (welt.heuteOrg alt.orgId) (pruefintervall_pos alt)
        omega
    · rw [sent]
      exact datiert.eindeutig

theorem Datiert.step (datiert : Datiert welt) (geordnet : Geordnet anfang welt) {schritt : Schritt}
    (vorwaerts : welt.Vorwaerts schritt) : Datiert (welt.step schritt) := by
  have today : Datiert { welt with heuteOrg := schritt.heuteOrg } :=
    ⟨fun e member => (datiert.zeitig e member).trans (vorwaerts _), datiert.org, datiert.aelter, datiert.eindeutig⟩
  obtain ⟨heuteOrg, aktion⟩ := schritt
  cases aktion with
  | pruefe => exact datiert.pruefe geordnet vorwaerts
  | freigeben planId userId notiz fassung => exact today.neueFrist (freigeben_ne planId userId notiz fassung) planId
  | bestaetigen planId userId kommentar => exact today.neueFrist (bestaetigen_ne planId userId kommentar) planId

end Daten

section Lauf

variable {plaene : Keyed KatplanPlan.id} {heuteOrg : Option Nat → Datum}

def erster (jahr : Nat) (monat : Nat) (imJahr : 1 ≤ monat ∧ monat ≤ 12) : Datum where
  jahr := jahr
  monat := monat
  tag := 1
  imJahr := imJahr
  imMonat := ⟨le_rfl, le_trans (by decide) (monatslaenge_ge jahr monat)⟩

end Lauf

end Einsatzcockpit.Katplan
