import Einsatzcockpit.Dienst.Ablauf

namespace Einsatzcockpit.Dienst

open Transition

variable (org : OrgSettings)

def DienstCheck.alarmiert (check : DienstCheck) : Bool := check.alert && check.relevant && check.state != .nichtKonfiguriert

def Schritt.alarmiert : Schritt → Bool
  | lies _ check => check.alarmiert
  | _ => true

/-- What the messages rest on: a decision is written on the columns that it was
made on, no outage is looked at while an all-clear is outstanding, a claim finds
the columns as its run has left them, and a rollback finds its own claim. -/
def erlaubt (w : Welt) : Schritt → Bool
  | .entscheide arbeiter =>
    match w.arbeiter[arbeiter]? with
    | some (.gelesen check _ row) =>
      w.row.spalten == row.spalten &&
        !((check.state == .down || check.state == .teilweise) && row.outageNotifiedAt.isSome && row.lastRepeatAt.isNone)
    | _ => true
  | .beanspruche arbeiter ausgeschaltet =>
    match w.arbeiter[arbeiter]? with
    | some (.geladen .stoerung now spalten vorherOutage vorherRepeat) =>
      ausgeschaltet || !beanspruchbar org .stoerung w.row now ||
        w.row.spalten == spalten && w.row.outageNotifiedAt == vorherOutage && w.row.lastRepeatAt == vorherRepeat
    | some (.geladen .entwarnung now _ _ _) =>
      ausgeschaltet || !beanspruchbar org .entwarnung w.row now || w.row.lastRepeatAt.isNone
    | _ => true
  | .versende arbeiter ok =>
    match w.arbeiter[arbeiter]? with
    | some (.versendet .stoerung now vorherOutage vorherRepeat) =>
      ok || !ruecknehmbar .stoerung w.row now || w.meldungen.head?.all fun meldung =>
        meldung.spalten.outageNotifiedAt == vorherOutage && meldung.spalten.lastRepeatAt == vorherRepeat
    | _ => true
  | _ => true

def Kern : Spalten → List Meldung → Prop
  | spalten, [] => spalten.outageNotifiedAt = none ∧ spalten.lastRepeatAt = none
  | spalten, meldung :: davor =>
    Kern meldung.spalten davor ∧
      match meldung.art with
      | .stoerung =>
        spalten.outageNotifiedAt.isSome = true ∧
          (∀ repeated, spalten.lastRepeatAt = some repeated →
            meldung.zeit = repeated ∧ meldung.spalten.downSince = spalten.downSince ∧ spalten.downSince.isSome = true) ∧
          (meldung.spalten.outageNotifiedAt = none ∨
            ∃ repeated, meldung.spalten.lastRepeatAt = some repeated ∧ repeated ≤ meldung.zeit - minuten org.wiederholungMin)
      | .entwarnung =>
        spalten.outageNotifiedAt = none ∧ spalten.lastRepeatAt = none ∧ meldung.spalten.outageNotifiedAt.isSome = true

def Phase.Gueltig : Phase → Prop
  | gelesen check _ _ => check.alarmiert = true
  | entschieden .stoerung _ spalten | geladen .stoerung _ spalten _ _ => spalten.downSince.isSome = true
  | _ => True

structure Stand (w : Welt) : Prop where
  kern : Kern org w.row.spalten w.meldungen
  phasen : ∀ phase ∈ w.arbeiter, phase.Gueltig

section Entscheidung

variable (check : DienstCheck) (row : DienstStatus) (now : Zeit)

@[simp] theorem vermerke_spalten : (vermerke check row now).spalten = row.spalten := by
  have noted : (if row.state = check.state then row else { row with state := check.state, since := some now }).spalten = row.spalten := by
    split <;> rfl
  unfold vermerke
  rw [← noted]
  generalize (if row.state = check.state then row else { row with state := check.state, since := some now }) = noted
  cases check.state <;> rfl

theorem entscheide_unknown (state : check.state = .unknown) : entscheide org check row now = (row, none) := by
  simp [entscheide, state]

section

variable (alarmiert : check.alarmiert = true)
include alarmiert

theorem entscheide_ok (state : check.state = .ok) :
    entscheide org check row now =
      ({ row with okCycles := row.okCycles + 1, failCycles := 0, downSince := none, lastRepeatAt := none },
        if row.outageNotifiedAt.isSome then some .entwarnung else none) := by
  simp only [DienstCheck.alarmiert, Bool.and_eq_true] at alarmiert
  simp [entscheide, state, alarmiert.1.1, alarmiert.1.2]

theorem entscheide_ausfall (state : check.state = .down ∨ check.state = .teilweise) :
    (entscheide org check row now).1 =
        { row with downSince := some (row.downSince.getD now), failCycles := row.failCycles + 1, okCycles := 0 } ∧
      ((entscheide org check row now).2 = some .stoerung ∨ (entscheide org check row now).2 = none) := by
  simp only [DienstCheck.alarmiert, Bool.and_eq_true] at alarmiert
  have known : check.state ≠ .nichtKonfiguriert ∧ check.state ≠ .unknown := by
    rcases state with is | is <;> rw [is] <;> decide
  simp only [entscheide, if_neg known.1, alarmiert.1.1, alarmiert.1.2, known.2, state, if_true, not_true_eq_false, or_self, if_false]
  split
  · exact ⟨rfl, Or.inl rfl⟩
  · exact ⟨rfl, Or.inr rfl⟩

theorem entscheide_stoerung (state : check.state = .down)
    (karenz : minuten org.karenzMin ≤ now - row.downSince.getD now) (zyklen : 2 ≤ row.failCycles + 1)
    (keine : row.outageNotifiedAt = none) : (entscheide org check row now).2 = some .stoerung := by
  simp only [DienstCheck.alarmiert, Bool.and_eq_true] at alarmiert
  simp [entscheide, state, alarmiert.1.1, alarmiert.1.2, wiederholungFaellig, keine, karenz, zyklen]

end

theorem geschrieben_self {α : Type} [DecidableEq α] (gelesen neu : α) : geschrieben gelesen neu gelesen = neu := by
  unfold geschrieben
  split
  · next same => exact same.symm
  · rfl

theorem uebernimmt_spalten {aktuell gelesen neu : DienstStatus} (fresh : aktuell.spalten = gelesen.spalten) :
    (aktuell.uebernimmt gelesen neu).spalten = neu.spalten := by
  injection fresh with downSince outage repeated
  simp only [DienstStatus.spalten, DienstStatus.uebernimmt, downSince, outage, repeated, geschrieben_self]

end Entscheidung

section Kern

variable {org} {spalten : Spalten} {meldungen : List Meldung}

section

variable (kern : Kern org spalten meldungen)
include kern

theorem Kern.letzte {repeated : Zeit} (has : spalten.lastRepeatAt = some repeated) :
    ∃ meldung davor, meldungen = meldung :: davor ∧ meldung.art = .stoerung ∧ meldung.zeit = repeated ∧
      meldung.spalten.downSince = spalten.downSince ∧ spalten.downSince.isSome = true ∧ Kern org meldung.spalten davor := by
  cases meldungen with
  | nil => exact absurd (kern.2.symm.trans has) nofun
  | cons meldung davor =>
    obtain ⟨before, shows⟩ := kern
    cases art : meldung.art with
    | stoerung =>
      rw [art] at shows
      obtain ⟨zeit, same, down⟩ := shows.2.1 repeated has
      exact ⟨meldung, davor, rfl, art, zeit, same, down, before⟩
    | entwarnung =>
      rw [art] at shows
      exact absurd (shows.2.1.symm.trans has) nofun

theorem Kern.genesen :
    Kern org { spalten with downSince := none, lastRepeatAt := none } meldungen := by
  cases meldungen with
  | nil => exact ⟨kern.1, rfl⟩
  | cons meldung davor =>
    obtain ⟨before, shows⟩ := kern
    refine ⟨before, ?_⟩
    cases art : meldung.art with
    | stoerung =>
      rw [art] at shows
      exact ⟨shows.1, nofun, shows.2.2⟩
    | entwarnung =>
      rw [art] at shows
      exact ⟨shows.1, rfl, shows.2.2⟩

theorem Kern.ausgefallen (now : Zeit) :
    Kern org { spalten with downSince := some (spalten.downSince.getD now) } meldungen := by
  cases meldungen with
  | nil => exact kern
  | cons meldung davor =>
    obtain ⟨before, shows⟩ := kern
    refine ⟨before, ?_⟩
    cases art : meldung.art with
    | stoerung =>
      rw [art] at shows
      refine ⟨shows.1, fun repeated has => ?_, shows.2.2⟩
      obtain ⟨zeit, same, down⟩ := shows.2.1 repeated has
      obtain ⟨since, is⟩ := Option.isSome_iff_exists.mp down
      exact ⟨zeit, by rw [same, is]; rfl, rfl⟩
    | entwarnung =>
      rw [art] at shows
      exact shows

end

end Kern

section Schritte

variable {org} {w : Welt} {arbeiter : Nat}

section

variable (stand : Stand org w)
include stand

theorem Stand.setze {row : DienstStatus} {meldungen : List Meldung} {phase : Phase}
    (kern : Kern org row.spalten meldungen) (gueltig : phase.Gueltig) :
    Stand org (Welt.setze { w with row, meldungen } arbeiter phase) where
  kern := kern
  phasen := fun other member => by
    rcases List.mem_or_eq_of_mem_set member with old | rfl
    · exact stand.phasen other old
    · exact gueltig

theorem Stand.gueltig {phase : Phase} (found : w.arbeiter[arbeiter]? = some phase) : phase.Gueltig :=
  stand.phasen phase (List.mem_of_getElem? found)

theorem Stand.entscheidet {check : DienstCheck} {now : Zeit} {row : DienstStatus}
    (alarmiert : check.alarmiert = true) (fresh : w.row.spalten = row.spalten) :
    Stand org (w.entscheide org arbeiter check now row) := by
  have spalten := @uebernimmt_spalten w.row row (Welt.entschieden org check now row).1 fresh
  have noted := vermerke_spalten check row now
  unfold Welt.entscheide
  have kern := stand.kern
  rw [fresh] at kern
  cases state : check.state with
  | nichtKonfiguriert => simp [DienstCheck.alarmiert, state] at alarmiert
  | unknown =>
    have decided : Welt.entschieden org check now row = (vermerke check row now, none) := entscheide_unknown org check _ now state
    rw [decided] at spalten ⊢
    exact stand.setze (by rw [spalten, noted]; exact kern) trivial
  | ok =>
    have decided := entscheide_ok org check (vermerke check row now) now alarmiert state
    rw [← Welt.entschieden] at decided
    rw [decided] at spalten ⊢
    have same : (w.row.uebernimmt row _).spalten = { row.spalten with downSince := none, lastRepeatAt := none } :=
      spalten.trans (by rw [← noted]; rfl)
    refine stand.setze (by rw [same]; exact kern.genesen) ?_
    cases outage : (vermerke check row now).outageNotifiedAt <;> trivial
  | down | teilweise =>
    have decided := entscheide_ausfall org check (vermerke check row now) now alarmiert (by simp [state])
    rw [← Welt.entschieden] at decided
    have down : (Welt.entschieden org check now row).1.spalten =
        { row.spalten with downSince := some (row.spalten.downSince.getD now) } := by
      rw [decided.1, ← noted]
      rfl
    refine @Stand.setze org w arbeiter stand (w.row.uebernimmt row _) w.meldungen _ (by rw [spalten, down]; exact kern.ausgefallen now) ?_
    rw [down]
    rcases decided.2 with art | art <;> rw [art]
    · exact rfl
    · trivial

theorem Stand.beansprucht {art : Art} {now : Zeit} {spalten : Spalten} {vorherOutage vorherRepeat : Option Zeit}
    (found : w.arbeiter[arbeiter]? = some (.geladen art now spalten vorherOutage vorherRepeat))
    (ok : erlaubt org w (.beanspruche arbeiter false) = true) :
    Stand org (w.beanspruche org arbeiter art now vorherOutage vorherRepeat) := by
  unfold Welt.beanspruche
  split
  · next free =>
    refine stand.setze ⟨stand.kern, ?_⟩ trivial
    cases art with
    | stoerung =>
      simp only [erlaubt, found, free, Bool.not_true, Bool.false_or, Bool.and_eq_true, beq_iff_eq] at ok
      have down : w.row.downSince.isSome = true := by
        have gueltig : spalten.downSince.isSome = true := stand.gueltig found
        rw [← ok.1.1] at gueltig
        exact gueltig
      refine ⟨rfl, fun repeated is => ⟨Option.some.inj is, rfl, down⟩, ?_⟩
      rw [beanspruchbar, Bool.or_eq_true, Option.isNone_iff_eq_none, Option.any_eq_true] at free
      rcases free with none | ⟨repeated, is, old⟩
      · exact Or.inl none
      · exact Or.inr ⟨repeated, is, of_decide_eq_true old⟩
    | entwarnung =>
      simp only [erlaubt, found, free, Bool.not_true, Bool.false_or, Option.isNone_iff_eq_none] at ok
      exact ⟨rfl, ok, free⟩
  · exact stand.setze stand.kern trivial

theorem Stand.nimmtZurueck {now : Zeit} {vorherOutage vorherRepeat : Option Zeit}
    (own : ruecknehmbar .stoerung w.row now = true → ∀ meldung ∈ w.meldungen.head?,
      meldung.spalten.outageNotifiedAt = vorherOutage ∧ meldung.spalten.lastRepeatAt = vorherRepeat) :
    Stand org (w.nimmZurueck .stoerung now vorherOutage vorherRepeat) := by
  unfold Welt.nimmZurueck
  split
  · next mine =>
    have repeated : w.row.spalten.lastRepeatAt = some now := beq_iff_eq.mp mine
    obtain ⟨meldung, davor, stack, -, -, down, -, before⟩ := stand.kern.letzte repeated
    obtain ⟨rfl, rfl⟩ := own mine meldung (by rw [stack]; rfl)
    have restored : (zurueckgenommen .stoerung w.row meldung.spalten.outageNotifiedAt meldung.spalten.lastRepeatAt).spalten =
        meldung.spalten := by
      have same : w.row.downSince = meldung.spalten.downSince := down.symm
      simp only [zurueckgenommen, DienstStatus.spalten, same]
    exact ⟨by rw [stack]; exact restored ▸ before, stand.phasen⟩
  · exact stand

theorem Stand.schritt {a : Schritt} (alarmiert : a.alarmiert = true) (ok : erlaubt org w a = true) :
    Stand org (schritt org w a) := by
  cases a with
  | warte dauer => exact ⟨stand.kern, stand.phasen⟩
  | beginne arbeiter =>
    simp only [Dienst.schritt]
    split
    · exact stand.setze stand.kern trivial
    · exact stand
  | lies arbeiter check =>
    simp only [Dienst.schritt]
    split
    · exact stand.setze stand.kern alarmiert
    · exact stand
  | entscheide arbeiter =>
    simp only [Dienst.schritt]
    split
    · next check now row found =>
      simp only [erlaubt, found, Bool.and_eq_true, beq_iff_eq] at ok
      exact stand.entscheidet (stand.gueltig found) ok.1
    · exact stand
  | lade arbeiter =>
    simp only [Dienst.schritt]
    split
    · next art now spalten found =>
      have gueltig := stand.gueltig found
      exact stand.setze stand.kern (by cases art with | stoerung => exact gueltig | entwarnung => trivial)
    · exact stand
  | beanspruche arbeiter ausgeschaltet =>
    simp only [Dienst.schritt]
    split
    · next art now spalten vorherOutage vorherRepeat found =>
      split
      · exact stand.setze stand.kern trivial
      · next an =>
        rw [Bool.not_eq_true] at an
        exact stand.beansprucht found (an ▸ ok)
    · exact stand
  | versende arbeiter sent =>
    simp only [Dienst.schritt]
    split
    · next art now vorherOutage vorherRepeat found =>
      have idle : Stand org (w.setze arbeiter .frei) := stand.setze stand.kern trivial
      split
      · exact idle
      · next failed =>
        cases art with
        | entwarnung => exact absurd (Or.inr rfl) failed
        | stoerung =>
          have notSent : sent = false := by simpa using failed
          subst notSent
          refine idle.nimmtZurueck fun mine meldung is => ?_
          have mine' : ruecknehmbar .stoerung w.row now = true := mine
          have last : w.meldungen.head? = some meldung := is
          simpa [erlaubt, found, mine', last] using ok
    · exact stand
  | absturz arbeiter => exact stand.setze stand.kern trivial

end

end Schritte

section Folgen

variable {org} {spalten : Spalten}

theorem Kern.davor {nach : List Meldung} {meldung : Meldung} {davor : List Meldung}
    (kern : Kern org spalten (nach ++ meldung :: davor)) : ∃ spalten, Kern org spalten (meldung :: davor) := by
  induction nach generalizing spalten with
  | nil => exact ⟨spalten, kern⟩
  | cons later rest ih => exact ih kern.1

theorem Kern.abstand {meldung ende : Meldung} {zwischen davor : List Meldung}
    (kern : Kern org spalten (meldung :: (zwischen ++ ende :: davor))) (stoerung : meldung.art = .stoerung)
    (ausfaelle : ∀ other ∈ zwischen, other.art = .stoerung) (auch : ende.art = .stoerung) :
    ende.zeit + minuten org.wiederholungMin ≤ meldung.zeit := by
  induction zwischen generalizing meldung spalten with
  | nil =>
    obtain ⟨before, shows⟩ := kern
    rw [stoerung] at shows
    rw [List.nil_append] at before
    have noticed := before.2
    rw [auch] at noticed
    rcases shows.2.2 with none | ⟨repeated, is, old⟩
    · exact absurd noticed.1 (by rw [none]; nofun)
    · rw [(noticed.2.1 repeated is).1]
      exact le_sub_iff_add_le.mp old
  | cons next rest ih =>
    obtain ⟨before, shows⟩ := kern
    have isStoerung := ausfaelle next (List.mem_cons_self ..)
    have earlier := ih before isStoerung fun other member => ausfaelle other (List.mem_cons_of_mem _ member)
    rw [stoerung] at shows
    have noticed := before.2
    rw [isStoerung] at noticed
    have interval : (0 : Zeit) ≤ minuten org.wiederholungMin := by
      have whole := sekunden_nonneg (org.wiederholungMin * 60)
      rwa [Nat.cast_mul] at whole
    rcases shows.2.2 with none | ⟨repeated, is, old⟩
    · exact absurd noticed.1 (by rw [none]; nofun)
    · rw [← (noticed.2.1 repeated is).1] at old
      exact (earlier.trans old).trans (sub_le_self _ interval)

theorem Stand.meldet {w : Welt} (stand : Stand org w) {arbeiter : Nat} {check : DienstCheck} {now : Zeit} {row : DienstStatus}
    (found : w.arbeiter[arbeiter]? = some (.gelesen check now row)) (ok : erlaubt org w (.entscheide arbeiter) = true)
    (state : check.state = .down) {downSince : Zeit} (since : (Welt.entschieden org check now row).1.downSince = some downSince)
    (karenz : minuten org.karenzMin ≤ now - downSince) (zyklen : 2 ≤ (Welt.entschieden org check now row).1.failCycles)
    (keine : ∀ meldung ∈ w.meldungen, meldung.art = .stoerung → meldung.spalten.downSince ≠ some downSince) :
    (Welt.entschieden org check now row).2 = some .stoerung := by
  have alarmiert : check.alarmiert = true := stand.gueltig found
  have decided := (entscheide_ausfall org check (vermerke check row now) now alarmiert (Or.inl state)).1
  have noted : (vermerke check row now).spalten = row.spalten := vermerke_spalten check row now
  simp only [erlaubt, found, state, Bool.and_eq_true, beq_iff_eq] at ok
  obtain ⟨fresh, settled⟩ := ok
  have kern := stand.kern
  rw [fresh] at kern
  have same : row.downSince.getD now = downSince := by
    rw [Welt.entschieden, decided, show (vermerke check row now).downSince = row.downSince from congrArg Spalten.downSince noted] at since
    exact Option.some.inj since
  rw [Welt.entschieden, decided] at zyklen
  have outage : (vermerke check row now).outageNotifiedAt = none := by
    rw [show (vermerke check row now).outageNotifiedAt = row.outageNotifiedAt from congrArg Spalten.outageNotifiedAt noted]
    cases noticed : row.outageNotifiedAt with
    | none => rfl
    | some outage =>
      cases repeats : row.lastRepeatAt with
      | none => simp [noticed, repeats] at settled
      | some repeated =>
        obtain ⟨meldung, davor, stack, art, -, sameOutage, down, -⟩ := kern.letzte repeats
        refine absurd ?_ (keine meldung (stack ▸ List.mem_cons_self ..) art)
        obtain ⟨start, is⟩ := Option.isSome_iff_exists.mp down
        have is' : row.downSince = some start := is
        rw [sameOutage, is, ← same, is', Option.getD_some]
  refine entscheide_stoerung org check (vermerke check row now) now alarmiert state ?_ zyklen outage
  rwa [show (vermerke check row now).downSince = row.downSince from congrArg Spalten.downSince noted, same]

end Folgen

def gefunden (state : Zustand) : DienstCheck := { state, detail := "", relevant := true }

def gemeldet : List Schritt := [.lade 0, .beanspruche 0 false, .versende 0 true]

end Einsatzcockpit.Dienst
